import LiveSearch.Proofs.Session.Hearing

/-!
# When the answer arrives

Some batches and the answer to a query are on their way to a session. Does it matter which of them
arrive first? The two orders take very different ways. Batches that come before the answer are held
in the replay buffer, which keeps of each reference the last event only; batches that come behind it
are applied one by one, and a hit that one of them removes does not come back with the next.

This is the whole difference (`Session.results_answeredFirst`): **an answer that arrives first shows
the hits that it shows when it arrives last, less those that a single batch removes**, in the same
order and otherwise the same. So the order does not matter where no batch shows again what a batch
before it has removed (`RemovalsStand`).

A query may have heard of other things before (`Session.HasHeard`). It has heard them before the
answer in either order, but they are replayed together with the batches that come before the answer,
and apart from those behind it. So what was heard before counts as one batch more. Of a query that
has heard a removal this is seen without any removal in the batches
(`Session.answeredFirst_of_heard_removal`).
-/

namespace LiveSearch

/-! ### Removals that stand -/

/-- **No removal is taken back**: a reference that a batch removes is not shown again by a later
one. -/
def RemovalsStand (batches : List (List Event)) : Prop :=
  batches.Pairwise fun earlier later => ∀ ref item,
    Event.lastWord? earlier ref = some .remove → Event.lastWord? later ref ≠ some (.refresh item)

/-- Where no batch shows a reference, all of them together do not. -/
theorem lastWord?_flatten_ne_refresh {batches : List (List Event)} {ref : Reference}
    (h : ∀ batch ∈ batches, ∀ item, Event.lastWord? batch ref ≠ some (.refresh item))
    (item : Item) : Event.lastWord? batches.flatten ref ≠ some (.refresh item) := by
  induction batches with
  | nil => simp
  | cons batch rest ih =>
    intro hword
    rw [List.flatten_cons, Event.lastWord?_append] at hword
    rcases Option.or_eq_some_iff.mp hword with hlater | ⟨-, hfirst⟩
    · exact ih (fun batch hb => h batch (List.mem_cons_of_mem _ hb)) hlater
    · exact h batch List.mem_cons_self item hfirst

/-- **A removal that stands is the last word** of all batches together. -/
theorem RemovalsStand.lastWord?_flatten {batches : List (List Event)} (h : RemovalsStand batches)
    {batch : List Event} {ref : Reference} (hb : batch ∈ batches)
    (hword : Event.lastWord? batch ref = some .remove) :
    Event.lastWord? batches.flatten ref = some .remove := by
  induction batches with
  | nil => cases hb
  | cons first rest ih =>
    obtain ⟨hfirst, hrest⟩ := List.pairwise_cons.mp h
    rw [List.flatten_cons, Event.lastWord?_append]
    rcases List.mem_cons.mp hb with rfl | hlater
    -- the others say nothing of the reference, or remove it once more
    · have hnot := lastWord?_flatten_ne_refresh fun b hb item => hfirst b hb ref item hword
      cases hothers : Event.lastWord? rest.flatten ref with
      | none => exact hword
      | some a =>
        cases a with
        | remove => rfl
        | refresh item => exact absurd hothers (hnot item)
    · rw [ih hrest hlater, Option.some_or]

/-- **A hit that all batches together leave** is removed by none of them, if removals stand. -/
theorem RemovalsStand.spares {batches : List (List Event)} (h : RemovalsStand batches)
    {rs : ResultSet} {x : Hit} (hx : x ∈ (reconcile batches.flatten rs).1.hits) :
    ∀ batch ∈ batches, Event.lastWord? batch x.ref ≠ some .remove := by
  intro batch hb hword
  obtain ⟨y, -, hafter⟩ := mem_reconcile.mp hx
  -- the removal is the last word of all that was heard, so the hit is not there
  have hgone := h.lastWord?_flatten hb hword
  rw [Hit.ref_of_after hafter] at hgone
  rw [Hit.after_of_remove hgone] at hafter
  cases hafter

/-! ### Replaying without loss -/

/-- A buffer that has evicted nothing replays all that it has heard. -/
theorem Session.results_replayOver {b : ReplayBuffer} {heard : List Event} (hb : b.Holds heard)
    (hnone : b.evicted = []) (resolver : Resolver) (rs : ResultSet) :
    (replayOver resolver b.take.1 rs).1 = (reconcile heard rs).1 := by
  have hlossless : Lossless b heard b.evicted resolver := by
    refine ⟨hb, fun _ => Iff.rfl, fun ref hmem => ?_⟩
    rw [hnone] at hmem
    cases hmem
  exact hlossless.results_replayOver rs

namespace Session

/-! ### Before and behind the answer -/

/-- The session after some batches and then the answer to its query have arrived. -/
def answeredLast (resolver : Resolver) (s : Session) (batches : List (List Event))
    (hits : List RankedHit) : Session :=
  ((s.handleAll batches).complete resolver s.sequence (.ok hits)).session

/-- The session after the answer to its query and then some batches have arrived. -/
def answeredFirst (resolver : Resolver) (s : Session) (batches : List (List Event))
    (hits : List RankedHit) : Session :=
  (s.complete resolver s.sequence (.ok hits)).session.handleAll batches

section

variable {s : Session} {batches : List (List Event)} {heard : List Event} {room : List Reference}

/-- **The answer arrives last**: its hits heed all that was heard. -/
theorem results_answeredLast (hrun : s.phase = .running) (hheard : s.replay.Holds heard)
    (hroom : s.replay.HasRoom room) (hbatches : ∀ e ∈ batches.flatten, e.ref ∈ room)
    (resolver : Resolver) (hits : List RankedHit) :
    (answeredLast resolver s batches hits).results =
      (reconcile (heard ++ batches.flatten) (s.results.replace (Hit.classify hits))).1 := by
  have hnone := (hroom.extend hbatches).evicted
  rw [← results_replayOver (hheard.extend batches.flatten) hnone resolver]
  exact congrArg Session.results (complete_handleAll hrun resolver batches hits).1

/-- **The answer arrives first**: its hits are changed by one batch after the other. -/
theorem answeredFirst_eq (hrun : s.phase = .running) (hheard : s.replay.Holds heard)
    (hnone : s.replay.evicted = [])
    (hfore : ∀ batch ∈ batches, s.plansInBackground batch.length = false) (resolver : Resolver)
    (hits : List RankedHit) :
    answeredFirst resolver s batches hits =
      { s with
        results := (reconcileAll (heard :: batches) (s.results.replace (Hit.classify hits))).1
        phase := .completed
        replay := s.replay.clear
        deferred := []
        planning := none } := by
  rw [answeredFirst, complete_at_once hrun resolver hits, results_replayOver hheard hnone resolver]
  exact handleAll_foreground rfl (by simp) hfore

/-- **What an answer shows that arrives first**, seen from what it shows when it arrives last. What
the session has heard before counts as one batch more. -/
theorem results_answeredFirst (hrun : s.phase = .running) (hheard : s.replay.Holds heard)
    (hroom : s.replay.HasRoom room) (hbatches : ∀ e ∈ batches.flatten, e.ref ∈ room)
    (hfore : ∀ batch ∈ batches, s.plansInBackground batch.length = false) (resolver : Resolver)
    (hits : List RankedHit) :
    (answeredFirst resolver s batches hits).results =
      { (answeredLast resolver s batches hits).results with
        hits := (answeredLast resolver s batches hits).results.hits.filter fun h =>
          ∀ batch ∈ heard :: batches, Event.lastWord? batch h.ref ≠ some .remove } := by
  rw [results_answeredLast hrun hheard hroom hbatches resolver hits,
    answeredFirst_eq hrun hheard hroom.evicted hfore resolver hits, reconcileAll_fst,
    reconcile_fst, List.flatten_cons]

/-- Which hits of an answer are there if it arrives last. -/
theorem mem_refs_answeredLast (hrun : s.phase = .running) (hheard : s.replay.Holds heard)
    (hroom : s.replay.HasRoom room) (hbatches : ∀ e ∈ batches.flatten, e.ref ∈ room)
    (resolver : Resolver) (hits : List RankedHit) {ref : Reference} :
    ref ∈ (answeredLast resolver s batches hits).results.refs ↔
      ref ∈ (s.results.replace (Hit.classify hits)).refs ∧
        Event.lastWord? (heard ++ batches.flatten) ref ≠ some .remove := by
  rw [results_answeredLast hrun hheard hroom hbatches resolver hits, mem_refs_reconcile]

/-- Which of them are there if it arrives first. -/
theorem mem_refs_answeredFirst (hrun : s.phase = .running) (hheard : s.replay.Holds heard)
    (hroom : s.replay.HasRoom room) (hbatches : ∀ e ∈ batches.flatten, e.ref ∈ room)
    (hfore : ∀ batch ∈ batches, s.plansInBackground batch.length = false) {resolver : Resolver}
    {hits : List RankedHit} {ref : Reference} :
    ref ∈ (answeredFirst resolver s batches hits).results.refs ↔
      ref ∈ (answeredLast resolver s batches hits).results.refs ∧
        ∀ batch ∈ heard :: batches, Event.lastWord? batch ref ≠ some .remove := by
  rw [results_answeredFirst hrun hheard hroom hbatches hfore resolver hits, ResultSet.mem_refs,
    ResultSet.mem_refs]
  constructor
  · rintro ⟨h, hh, rfl⟩
    obtain ⟨hin, hspared⟩ := List.mem_filter.mp hh
    exact ⟨⟨h, hin, rfl⟩, of_decide_eq_true hspared⟩
  · rintro ⟨⟨h, hh, rfl⟩, hspared⟩
    exact ⟨h, List.mem_filter.mpr ⟨hh, decide_eq_true hspared⟩, rfl⟩

end

/-- **It matters little whether the answer to a query arrives before some batches or behind them.**
A session whose query runs has heard some events since it began. Let it be given some batches, of
whatever events, none of which is planned in the background, and let its replay buffer have room for
all references that were and will be heard of. Then the answer, whatever its hits, is installed in
either order. If it arrives first the session shows the hits that it shows otherwise, in the same
order and in every respect the same, less those that a single batch removes, or else what was heard
before, which counts as one batch; and if no such removal is taken back the two result sets are the
same. -/
theorem answeredFirst_less_removed (s : Session) (hs : s.Reachable) (hrun : s.phase = .running) :
    (∃ heard, s.HasHeard heard) ∧
      ∀ heard, s.HasHeard heard → ∀ batches : List (List Event),
        (∀ batch ∈ batches, s.plansInBackground batch.length = false) →
        ((heard :: batches).flatten.map (·.ref)).eraseDups.length ≤ s.settings.replayCapacity →
        ∀ (resolver : Resolver) (hits : List RankedHit),
          let last := answeredLast resolver s batches hits
          let first := answeredFirst resolver s batches hits
          last.phase = .completed ∧ first.phase = .completed ∧
            first.results = { last.results with
              hits := last.results.hits.filter fun h =>
                ∀ batch ∈ heard :: batches, Event.lastWord? batch h.ref ≠ some .remove } ∧
            (RemovalsStand (heard :: batches) → first.results = last.results) := by
  refine ⟨hs.exists_hasHeard hrun, fun heard hheard batches hfore henough resolver hits => ?_⟩
  intro last first
  have hrefs : ∀ e ∈ (heard :: batches).flatten,
      e.ref ∈ ((heard :: batches).flatten.map (·.ref)).eraseDups :=
    fun e he => List.mem_eraseDups.mpr (List.mem_map.mpr ⟨e, he, rfl⟩)
  have hbefore := fun e he => hrefs e (List.mem_append_left _ he)
  have hbatches := fun e he => hrefs e (List.mem_append_right heard he)
  have hroom := hheard.hasRoom henough hbefore
  have hlast : last.results = (reconcile (heard :: batches).flatten _).1 :=
    results_answeredLast hrun hheard.holds hroom hbatches resolver hits
  have hfirst : first.results = _ :=
    results_answeredFirst hrun hheard.holds hroom hbatches hfore resolver hits
  refine ⟨?last, ?first, hfirst, fun hstand => ?same⟩
  case last => exact congrArg Session.phase (complete_handleAll hrun resolver batches hits).1
  case first =>
    exact congrArg Session.phase
      (answeredFirst_eq hrun hheard.holds hroom.evicted hfore resolver hits)
  case same =>
    have hall : last.results.hits.filter (fun h =>
        ∀ batch ∈ heard :: batches, Event.lastWord? batch h.ref ≠ some .remove) =
          last.results.hits := by
      refine List.filter_eq_self.mpr fun h hh => decide_eq_true ?_
      rw [hlast] at hh
      exact hstand.spares hh
    rw [hfirst, hall]

/-- An item that is deleted and then comes back: the answer shows it when it arrives last, and not
when it arrives first. -/
theorem answeredFirst_less_removed_of_return :
    let item : Item :=
      { ref := ⟨1⟩, feed := "f", guid := "a", title := "A", state := .unread, received := 5 }
    let hit : RankedHit :=
      { ref := ⟨1⟩, score := Single.zero, state := .unread, attributes := {} }
    let resolver : Resolver := fun _ => .ok item
    let s := asking { replayCapacity := 1, backgroundScanThreshold := 0 }
    let batches := [[Event.deleted ⟨1⟩], [Event.updated item]]
    (s.Reachable ∧ s.phase = .running ∧ s.HasHeard [] ∧
        (∀ batch ∈ batches, s.plansInBackground batch.length = false) ∧
        (([] :: batches).flatten.map (·.ref)).eraseDups.length ≤ s.settings.replayCapacity) ∧
      (answeredFirst resolver s batches [hit]).results.hits =
        (answeredLast resolver s batches [hit]).results.hits.filter (fun h =>
          ∀ batch ∈ [] :: batches, Event.lastWord? batch h.ref ≠ some .remove) ∧
      ⟨1⟩ ∈ (answeredLast resolver s batches [hit]).results.refs ∧
      ⟨1⟩ ∉ (answeredFirst resolver s batches [hit]).results.refs := by
  intro item hit resolver s batches
  have hs : s.Reachable := reachable_asking _
  have hheard : s.HasHeard [] := hasHeard_asking _
  have hfore : ∀ batch ∈ batches, s.plansInBackground batch.length = false := by
    intro batch _
    rfl
  have henough :
      (([] :: batches).flatten.map (·.ref)).eraseDups.length ≤ s.settings.replayCapacity := by
    decide
  obtain ⟨-, hall⟩ := answeredFirst_less_removed s hs hheard.phase
  obtain ⟨-, -, hresults, -⟩ := hall [] hheard batches hfore henough resolver [hit]
  have hroom : s.replay.HasRoom [⟨1⟩] := hheard.hasRoom (Nat.le_refl 1) (by simp)
  have hbatches : ∀ e ∈ batches.flatten, e.ref ∈ [(⟨1⟩ : Reference)] := by decide
  have hanswer : (⟨1⟩ : Reference) ∈ (s.results.replace (Hit.classify [hit])).refs :=
    ResultSet.mem_refs_replace.mpr ⟨_, List.mem_singleton.mpr rfl, rfl, rfl⟩
  have hlast : ⟨1⟩ ∈ (answeredLast resolver s batches [hit]).results.refs ↔ _ :=
    mem_refs_answeredLast hheard.phase hheard.holds hroom hbatches resolver [hit]
  refine ⟨⟨hs, hheard.phase, hheard, hfore, henough⟩, by rw [hresults],
    hlast.mpr ⟨hanswer, by decide⟩, ?_⟩
  rw [mem_refs_answeredFirst hheard.phase hheard.holds hroom hbatches hfore]
  rintro ⟨-, hspared⟩
  exact hspared [Event.deleted ⟨1⟩] (by decide) rfl

/-- **A removal that was heard before.** The query has heard that the item is deleted, and then a
batch shows it again. The batch removes nothing, and yet an answer that arrives first lacks the hit
that it shows when it arrives last. -/
theorem answeredFirst_of_heard_removal :
    let item : Item :=
      { ref := ⟨1⟩, feed := "f", guid := "a", title := "A", state := .unread, received := 5 }
    let hit : RankedHit :=
      { ref := ⟨1⟩, score := Single.zero, state := .unread, attributes := {} }
    let resolver : Resolver := fun _ => .ok item
    let s := (asking { replayCapacity := 1, backgroundScanThreshold := 0 }).act resolver
      (.batch [Event.deleted ⟨1⟩])
    let batches := [[Event.updated item]]
    (s.Reachable ∧ s.phase = .running ∧
        (∀ batch ∈ batches, s.plansInBackground batch.length = false) ∧
        (batches.flatten.map (·.ref)).eraseDups.length ≤ s.settings.replayCapacity) ∧
      (∀ batch ∈ batches, ∀ ref, Event.lastWord? batch ref ≠ some .remove) ∧
      RemovalsStand batches ∧
      ⟨1⟩ ∈ (answeredLast resolver s batches [hit]).results.refs ∧
      ⟨1⟩ ∉ (answeredFirst resolver s batches [hit]).results.refs ∧
      (answeredFirst resolver s batches [hit]).results.hits ≠
        (answeredLast resolver s batches [hit]).results.hits.filter (fun h =>
          ∀ batch ∈ batches, Event.lastWord? batch h.ref ≠ some .remove) := by
  intro item hit resolver s batches
  have hheard : s.HasHeard [Event.deleted ⟨1⟩] := (hasHeard_asking _).act resolver rfl
  have hfore : ∀ batch ∈ batches, s.plansInBackground batch.length = false := by
    intro batch _
    rfl
  have hshows : ∀ ref, Event.lastWord? [Event.updated item] ref ≠ some .remove := by
    intro ref hword
    obtain ⟨e, he, -, hasks⟩ := Event.exists_of_lastWord? hword
    obtain rfl := List.mem_singleton.mp he
    cases hasks
  have hroom : s.replay.HasRoom [⟨1⟩] := hheard.hasRoom (Nat.le_refl 1) (by decide)
  have hbatches : ∀ e ∈ batches.flatten, e.ref ∈ [(⟨1⟩ : Reference)] := by decide
  have hanswer : (⟨1⟩ : Reference) ∈ (s.results.replace (Hit.classify [hit])).refs :=
    ResultSet.mem_refs_replace.mpr ⟨_, List.mem_singleton.mpr rfl, rfl, rfl⟩
  have hnone : ∀ batch ∈ batches, ∀ ref, Event.lastWord? batch ref ≠ some .remove := by
    intro batch hb
    obtain rfl := List.mem_singleton.mp hb
    exact hshows
  have hlast : ⟨1⟩ ∈ (answeredLast resolver s batches [hit]).results.refs :=
    (mem_refs_answeredLast hheard.phase hheard.holds hroom hbatches resolver [hit]).mpr
      ⟨hanswer, by decide⟩
  have hfirst : ⟨1⟩ ∉ (answeredFirst resolver s batches [hit]).results.refs := by
    rw [mem_refs_answeredFirst hheard.phase hheard.holds hroom hbatches hfore]
    rintro ⟨-, hspared⟩
    exact hspared [Event.deleted ⟨1⟩] List.mem_cons_self rfl
  refine ⟨⟨hheard.reachable, hheard.phase, hfore, by decide⟩, hnone, List.pairwise_singleton _ _,
    hlast, hfirst, fun heq => hfirst ?_⟩
  -- with nothing removed by the batches the two answers would be the same
  obtain ⟨h, hh, href⟩ := ResultSet.mem_refs.mp hlast
  refine ResultSet.mem_refs.mpr ⟨h, ?_, href⟩
  rw [heq]
  exact List.mem_filter.mpr ⟨hh, decide_eq_true fun batch hb => hnone batch hb h.ref⟩

end Session

end LiveSearch
