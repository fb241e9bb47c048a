import LiveSearch.Proofs.Session.Coherence
import LiveSearch.Proofs.Watch.Retention

/-!
# What a view says of its item

A view shows the state and the attributes of a hit together with its item. The two come on different
ways: the state and the attributes with the answer of a query or with an event, and the item, if no
event has brought it, from the store, at the moment in which it is looked up. So there are views
that contradict themselves. Where an item is hidden while the event that tells of it is queued,
materializing its hit attaches the hidden item to a hit that is still unread, and shows it.

**This is the only way in which views go wrong** (`Watch.view_agrees_or_hears`): the view of a hit
agrees with its item, and both with the store, unless an event about this very reference is
outstanding; and a view whose item is not there any more, or hidden, has a removal for the last word
that is outstanding. A view is always of a visible hit, and its item is that of its own reference.
-/

namespace LiveSearch

namespace Hit.Heeds

variable {h : Hit} {events : List Event} {s : Store}

/-- **A hit whose item is not to be shown** has still to hear that it goes. -/
theorem removed (hh : h.Heeds events s)
    (hgone : ∀ item, s.resolve h.ref = .ok item → item.isVisible = false) :
    Event.lastWord? events h.ref = some .remove := by
  have hnot : ∀ {x : Hit}, x.ref = h.ref → ¬x.Shows s := by
    rintro x href ⟨item, hstored, hvisible, -⟩
    rw [href] at hstored
    rw [hgone item hstored] at hvisible
    cases hvisible
  rcases hword : Event.lastWord? events h.ref with _ | (_ | item)
  · exact absurd (hh.shows hword) (hnot rfl)
  · rfl
  -- what a refresh leaves would show an item that is not to be shown
  · exact absurd (hh _ (after_of_refresh hword)) (hnot rfl)

end Hit.Heeds

namespace Watch

variable {w : Watch}

/-! ### The session of a watch -/

/-- Work that ends does to the session what an act can do to it. -/
theorem exists_act_ending (w : Watch) (position : Nat) {e : Errand} {message : Message}
    (hends : e.EndsWith message) :
    ∃ a, (w.ending position message).session = w.session.act w.corpus.sources.resolver a := by
  cases hends with
  | answer sequence kept => exact ⟨.answer sequence (.ok kept), rfl⟩
  | @failure e sequence failure hquery => exact ⟨.answer sequence (.error failure), rfl⟩
  | lookup generation found missing => exact ⟨.lookups generation found missing, rfl⟩
  | plan generation batch members =>
    exact ⟨.plan generation batch fun ref => ref ∈ members, rfl⟩
  | unplanned generation batch members => exact ⟨.unplanned generation batch, rfl⟩

/-- A move does to the session what an act can do to it, or nothing. -/
theorem exists_act (w : Watch) (m : Move) :
    (w.step m).session = w.session ∨
      ∃ a, (w.step m).session = w.session.act w.corpus.sources.resolver a := by
  cases m with
  | edit e =>
    rw [step]
    split <;> exact Or.inl rfl
  | write => exact Or.inl rfl
  | issue conditions matchAll =>
    refine Or.inr ⟨.issue conditions, ?_⟩
    rw [step, Session.act]
    cases w.session.issue conditions <;> rfl
  | clear => exact Or.inr ⟨.clear, rfl⟩
  | close =>
    refine Or.inr ⟨.close, ?_⟩
    rw [step]
    split <;> rfl
  | setOrder order => exact Or.inr ⟨.setOrder order, rfl⟩
  | resort => exact Or.inr ⟨.resort, rfl⟩
  | materialize start stop =>
    refine Or.inr ⟨.materialize start stop, ?_⟩
    rw [step, Session.act]
    cases w.session.materialize w.corpus.sources.resolver start stop <;> rfl
  | proceed position => exact Or.inl rfl
  | deliver position =>
    rcases w.step_deliver position with heq | ⟨e, message, -, hends, heq⟩ <;> rw [heq]
    · exact Or.inl rfl
    · exact Or.inr (exists_act_ending w position hends)
  | breakOff position reason =>
    rcases w.step_breakOff position reason with ⟨heq, -⟩ | ⟨e, message, -, hends, heq⟩ <;> rw [heq]
    · exact Or.inl rfl
    · exact Or.inr (exists_act_ending w position hends)
  | receive =>
    rw [step]
    rcases w.next? with _ | ⟨batch, bus⟩
    · exact Or.inl rfl
    · exact Or.inr ⟨.batch batch, rfl⟩

/-- **The session of a watch** is a session that can occur. -/
theorem Occurs.reachable (h : w.Occurs) : w.session.Reachable := by
  obtain ⟨corpus, settings, moves, -, rfl⟩ := h
  induction moves using List.reverseRecOn with
  | nil => exact .fresh settings _
  | append_singleton moves m ih =>
    rw [run_snoc]
    rcases exists_act ((opening corpus settings).run moves) m with heq | ⟨a, heq⟩
    · rw [heq]
      exact ih
    · rw [heq]
      exact .act _ a ih

/-! ### Views -/

/-- **An honest view** of a hit: it is right about its item unless something about it is
outstanding. -/
structure Honest (w : Watch) (h : Hit) : Prop where
  /-- The hit is in a visible state. -/
  visible : h.isVisible = true
  /-- Its item is that of its own reference. -/
  own : ∀ v, h.item = some v → v.ref = h.ref
  /-- If nothing about it is outstanding, its item is the stored one, in a visible state, and the
  hit has its state and its attributes. -/
  agrees : Event.lastWord? w.outstanding h.ref = none → ∀ v, h.item = some v →
    w.corpus.store.resolve h.ref = .ok v ∧ v.isVisible = true ∧ h.state = v.state ∧
      h.attributes = Attributes.ofItem v
  /-- If the store has no item to show for it, the last word that is outstanding removes it. -/
  removed : (∀ item, w.corpus.store.resolve h.ref = .ok item → item.isVisible = false) →
    Event.lastWord? w.outstanding h.ref = some .remove

/-- All hits can be viewed. -/
theorem honest_of_mem (hoccurs : w.Occurs) {h : Hit} (hh : h ∈ w.session.results.hits) :
    w.Honest h := by
  have hcoherent := hoccurs.reachable.coherent
  have hopen : w.session.phase ≠ .closed := by
    intro hclosed
    rw [hcoherent.hits_of_closed hclosed] at hh
    cases hh
  obtain ⟨heard, hsound⟩ := hoccurs.sound
  have hheeds := (hsound.current hopen).hits h hh
  refine ⟨(hcoherent.hits h hh).visible, (hcoherent.hits h hh).own, fun hsilent v hv => ?_,
    hheeds.removed⟩
  obtain ⟨item, hstored, hvisible, hstate, hattributes, hitem⟩ := hheeds.shows hsilent
  obtain rfl := hitem v hv
  exact ⟨hstored, hvisible, hstate, hattributes⟩

/-- Materializing changes neither the store nor what is outstanding. -/
theorem outstanding_materialize {start stop : Nat} {after : Session} {shown : List Hit}
    (hm : w.session.materialize w.corpus.sources.resolver start stop = .ok (after, shown)) :
    w.step (.materialize start stop) = { w with session := after } ∧
      ({ w with session := after } : Watch).outstanding = w.outstanding := by
  refine ⟨by rw [step, hm], ?_⟩
  have hsession := Session.session_materialize hm
  have hgeneration : after.results.generation = w.session.results.generation := by
    rw [hsession, Session.materializeRefs, Session.attachAll_fst]
    rfl
  have hplans : ({ w with session := after } : Watch).plans = w.plans := by
    rw [plans, plans, hgeneration]
  rw [outstanding, outstanding, waiting, waiting, hplans, hsession]
  rfl

/-- What is shown are hits that have stayed, with their items. -/
theorem mem_shown {start stop : Nat} {after : Session} {shown : List Hit}
    (hm : w.session.materialize w.corpus.sources.resolver start stop = .ok (after, shown)) {h : Hit}
    (hh : h ∈ shown) : h ∈ after.results.hits ∧ h.item.isSome = true := by
  rw [Session.materialize] at hm
  split at hm
  · cases hm
  · obtain ⟨rfl, rfl⟩ := Prod.mk.inj (Except.ok.inj hm)
    obtain ⟨hfound, hshown⟩ := List.mem_filter.mp hh
    obtain ⟨ref, -, hget⟩ := List.mem_filterMap.mp hfound
    exact ⟨List.mem_of_find?_eq_some hget, (Bool.and_eq_true_iff.mp hshown).2⟩

/-- **A view agrees with its item, or the session has still to hear of it.** This holds at all times
of every view that is shown, and of those that materializing shows with the items that the store has
at that moment. -/
theorem view_agrees_or_hears (hoccurs : w.Occurs) :
    (∀ h ∈ w.session.snapshot, w.Honest h) ∧
      (w.session.isClosed = false → ∀ start stop, ∃ after shown,
        w.session.materialize w.corpus.sources.resolver start stop = .ok (after, shown) ∧
          ∀ h ∈ shown, h.item.isSome = true ∧ w.Honest h) := by
  refine ⟨fun h hh => honest_of_mem hoccurs (List.mem_filter.mp hh).1, fun hopen start stop => ?_⟩
  obtain ⟨after, shown, hm⟩ : ∃ after shown,
      w.session.materialize w.corpus.sources.resolver start stop = .ok (after, shown) :=
    ⟨_, _, if_neg (by simp [hopen])⟩
  refine ⟨after, shown, hm, fun h hh => ?_⟩
  obtain ⟨hstays, hitem⟩ := mem_shown hm hh
  obtain ⟨hstep, hsame⟩ := outstanding_materialize hm
  have hlater : ({ w with session := after } : Watch).Occurs := by
    rw [← hstep]
    exact hoccurs.run [.materialize start stop]
  obtain ⟨hvisible, hown, hagrees, hremoved⟩ := honest_of_mem hlater hstays
  rw [hsame] at hagrees hremoved
  exact ⟨hitem, hvisible, hown, hagrees, hremoved⟩

/-! ### An item is hidden -/

/-- A session has found the only item, which is then hidden. The event is queued. -/
def concealed : Watch :=
  ((opening (solitary unreadItem) { eagerResolveCount := 0 }).run
    [.issue [Condition.arrived] true, .proceed 0, .deliver 0]).run
      (Inquiry.updating Inquiry.hiddenItem)

theorem concealed_eq :
    concealed =
      { opening (solitary unreadItem) { eagerResolveCount := 0 } with
        corpus :=
          { store := (({} : Store).put unreadItem).put Inquiry.hiddenItem
            index := ((solitary unreadItem).index.enqueueAll
              (Index.replacement Inquiry.hiddenItem)).commit
            bus := (((({} : Bus).subscribe .news).1).publish .news
              [Event.updated Inquiry.hiddenItem]).1 }
        change := .done (.ok 1)
        session :=
          { Session.fresh { eagerResolveCount := 0 } 0 with
            results := { hits := Hit.classify [.ofItem unreadItem], generation := 1 }
            sequence := 1
            phase := .completed } } := by
  have hdocuments : (solitary unreadItem).index.documents = [Document.ofItem unreadItem] := rfl
  have hanswered := run_snoc (opening (solitary unreadItem) { eagerResolveCount := 0 })
    [.issue [Condition.arrived] true, .proceed 0] (.deliver 0)
  rw [run_issue_arrived rfl rfl rfl hdocuments (by decide) rfl,
    step_deliver_arrived rfl rfl rfl rfl] at hanswered
  have hanswered' : (opening (solitary unreadItem) { eagerResolveCount := 0 }).run
    [.issue [Condition.arrived] true, .proceed 0, .deliver 0] = _ := hanswered
  rw [concealed, hanswered', Inquiry.run_updating _ rfl]
  rfl

/-- **A view that contradicts itself**: the hit of the hidden item is shown as unread, and carries
the hidden item, for which a removal is outstanding. -/
theorem view_agrees_or_hears_of_concealed :
    (concealed.Occurs ∧ concealed.session.isClosed = false) ∧
      ∃ after h,
        concealed.session.materialize concealed.corpus.sources.resolver 0 1 = .ok (after, [h]) ∧
          h.state = .unread ∧ h.item = some Inquiry.hiddenItem ∧ concealed.Honest h ∧
          Event.lastWord? concealed.outstanding h.ref = some .remove := by
  have hopening : (opening (solitary unreadItem) { eagerResolveCount := 0 }).Occurs :=
    ⟨_, _, [], grown_solitary unreadItem, rfl⟩
  have hoccurs : concealed.Occurs :=
    (hopening.run [.issue [Condition.arrived] true, .proceed 0, .deliver 0]).run _
  have hopen : concealed.session.isClosed = false := by
    rw [concealed_eq]
    rfl
  obtain ⟨after, shown, hm, hhonest⟩ := (view_agrees_or_hears hoccurs).2 hopen 0 1
  have hhit : shown = [{ Hit.ofRanked (Thresholds.ofScores [Term.one]) (.ofItem unreadItem) with
      item := some Inquiry.hiddenItem }] := by
    rw [concealed_eq] at hm
    obtain ⟨-, hshown⟩ := Prod.mk.inj (Except.ok.inj hm)
    rw [← hshown]
    decide +kernel
  subst hhit
  have hview := (hhonest _ (List.mem_singleton.mpr rfl)).2
  refine ⟨⟨hoccurs, hopen⟩, after, _, hm, rfl, rfl, hview, hview.removed fun item hstored => ?_⟩
  have hput : concealed.corpus.store.resolve unreadItem.ref = .ok Inquiry.hiddenItem := by
    rw [concealed_eq]
    exact (Store.resolve_put _ _ _).trans (if_pos rfl)
  obtain rfl := Except.ok.inj (hput.symm.trans hstored)
  rfl

end Watch

end LiveSearch
