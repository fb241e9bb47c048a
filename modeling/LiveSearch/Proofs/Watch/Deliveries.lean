import LiveSearch.Proofs.ResultSet.Replace
import LiveSearch.Proofs.Watch.Invariant
import LiveSearch.Proofs.Watch.Replaying

/-!
# What is delivered comes to the truth

The moves that change the session keep the invariant. Three kinds of them are dealt with here, each
once: the hits of a generation are changed or dropped one by one (`Watch.Current.withResults`); the
hits go, with all that waits for them (`Watch.Current.reset`); or an answer replaces them
(`Watch.Current.installs`). What is left are the moves that let batches through to the hits.
-/

namespace LiveSearch

/-! ### Taking one piece of work away -/

/-- Taking an element away that does not pass a test leaves those that do. -/
theorem filter_eraseIdx_of_neg {α : Type} {p : α → Bool} {xs : List α} {i : Nat}
    (h : ∀ x, xs[i]? = some x → p x = false) : (xs.eraseIdx i).filter p = xs.filter p := by
  induction xs generalizing i with
  | nil => rfl
  | cons x xs ih =>
    cases i with
    | zero =>
      have hx : p x = false := h x rfl
      rw [List.eraseIdx_cons_zero, List.filter_cons_of_neg (by simp [hx])]
    | succ i =>
      rw [List.eraseIdx_cons_succ, List.filter_cons, List.filter_cons, ih fun y hy => h y hy]

/-- Taking the only element away that passes a test leaves none that does. -/
theorem filter_eraseIdx_of_pos {α : Type} {p : α → Bool} {xs : List α} {i : Nat} {x y : α}
    (hx : xs[i]? = some x) (hp : p x = true) (hone : xs.filter p = [y]) :
    x = y ∧ (xs.eraseIdx i).filter p = [] := by
  induction xs generalizing i with
  | nil => cases hx
  | cons z xs ih =>
    cases i with
    | zero =>
      obtain rfl : z = x := Option.some.inj hx
      rw [List.filter_cons_of_pos hp] at hone
      obtain ⟨rfl, hrest⟩ := List.cons.inj hone
      exact ⟨rfl, hrest⟩
    | succ i =>
      have hmem : x ∈ xs.filter p := List.mem_filter.mpr ⟨List.mem_of_getElem? hx, hp⟩
      by_cases hz : p z
      · rw [List.filter_cons_of_pos hz] at hone
        rw [(List.cons.inj hone).2] at hmem
        cases hmem
      · rw [List.filter_cons_of_neg hz] at hone
        rw [List.eraseIdx_cons_succ, List.filter_cons_of_neg hz]
        exact ih hx hone

namespace Watch

variable {heard heard' : List Event} {w w' : Watch}

/-- Work whose plans are all for older hits has none for newer ones. -/
theorem plans_eq_nil {errands : List Errand} {generation : Nat}
    (hfits : ∀ e ∈ errands, e.Fits heard w) (hnew : w.session.results.generation < generation) :
    errands.filter (Errand.plans generation) = [] := by
  rw [List.filter_eq_nil_iff]
  intro e he hplans
  have hle := hfits e he
  cases e with
  | plan g batch members =>
    have hg : g = generation := by simpa [Errand.plans] using hplans
    have hle' : g ≤ w.session.results.generation := hle
    omega
  | _ => cases hplans

/-! ### The hits of a generation change one by one -/

/-- **Hits are changed or dropped one by one**, and some work may be done with. -/
theorem Current.withResults (h : w.Current heard) (results : ResultSet) (errands : List Errand)
    (hgeneration : results.generation = w.session.results.generation)
    (hplans : errands.filter (Errand.plans results.generation) = w.plans)
    (herrands : ∀ e ∈ errands, e ∈ w.errands)
    (hfrom : ∀ x ∈ results.hits, ∃ y ∈ w.session.results.hits, y.ref = x.ref ∧
      (x.item = none → y.item = none))
    (hheeds : ∀ x ∈ results.hits, x.Heeds w.outstanding w.corpus.store) :
    Current heard { w with session := { w.session with results }, errands } := by
  have hsame : ({ w with session := { w.session with results }, errands } : Watch).outstanding =
      w.outstanding := by
    rw [outstanding, waiting, plans, hplans]
    rfl
  refine ⟨h.listens, h.told, h.held, fun x hx => ?_, ?_, fun e he => ?_⟩
  · rw [hsame]
    exact hheeds x hx
  · rcases h.planned with ⟨hnone, hnil⟩ | ⟨batch, members, hsome, hone, hmembers⟩
    · exact Or.inl ⟨hnone, hplans.trans hnil⟩
    · refine Or.inr ⟨batch, members, ?_, ?_, fun x hx => ?_⟩
      · rw [hsome, hgeneration]
      · exact hplans.trans (hgeneration ▸ hone)
      -- a hit that is still there was a member when the plan was begun
      · obtain ⟨y, hy, href, -⟩ := hfrom x hx
        rw [← href]
        exact hmembers y hy
  · refine (h.errands e (herrands e he)).mono le_rfl hgeneration.ge
      (fun _ hrun => ⟨hrun, fun _ hx => hx⟩) fun _ v hv x hx href hitem hw => ?_
    obtain ⟨y, hy, hyref, hyitem⟩ := hfrom x hx
    rw [hsame] at hw
    exact hv y hy (hyref.trans href) (hyitem hitem) hw

/-- The hits after a lookup of some items, of which each is the stored one or will be replaced. -/
theorem Current.attach {items : List Item} {gone : List Reference} (h : w.Current heard)
    (errands : List Errand)
    (hplans : errands.filter (Errand.plans w.session.results.generation) = w.plans)
    (herrands : ∀ e ∈ errands, e ∈ w.errands) (hfresh : ∀ v ∈ items, w.Fresh v) :
    Current heard
      { w with
        session := { w.session with
          results := ((Session.attachAll items w.session.results).1).removeAll gone }
        errands } := by
  have hhits : ∀ x ∈ (((Session.attachAll items w.session.results).1).removeAll gone).hits,
      ∃ y ∈ w.session.results.hits, Session.attachedBy items y = x := by
    intro x hx
    rw [Session.attachAll_fst] at hx
    exact List.mem_map.mp (List.mem_filter.mp hx).1
  have hgeneration : (((Session.attachAll items w.session.results).1).removeAll gone).generation =
      w.session.results.generation := by
    rw [Session.attachAll_fst]
    rfl
  refine h.withResults _ errands hgeneration (by rw [hgeneration]; exact hplans) herrands
    (fun x hx => ?_) fun x hx => ?_
  · obtain ⟨y, hy, rfl⟩ := hhits x hx
    refine ⟨y, hy, (Session.ref_attachedBy items y).symm, fun hnone => ?_⟩
    cases hyitem : y.item with
    | none => rfl
    | some v =>
      rw [Session.attachedBy_of_some items hyitem, hyitem] at hnone
      cases hnone
  · obtain ⟨y, hy, rfl⟩ := hhits x hx
    refine (h.hits y hy).attachedBy fun hnone v hv href hsilent => ?_
    -- nothing will replace the item, so it has to be the stored one
    have hstored := hfresh v hv y hy href.symm hnone (by rw [href]; exact hsilent)
    rw [← href]
    exact hstored

/-! ### The hits go -/

/-- **The hits go**, with all that waits for them. -/
theorem Current.reset {t : Session} (h : w.Current heard) (errands : List Errand)
    (hlistener : t.listener = w.session.listener) (hresults : t.results = w.session.results.clear)
    (hplanning : t.planning = none) (hsequence : w.session.sequence ≤ t.sequence)
    (hphase : t.phase ≠ .running) (herrands : ∀ e ∈ errands, e ∈ w.errands) :
    Current heard { w with session := t, errands } := by
  have hgeneration : t.results.generation = w.session.results.generation + 1 := by
    rw [hresults]
    rfl
  have hnil : t.results.hits = [] := by
    rw [hresults]
    rfl
  have hupcoming : ({ w with session := t, errands } : Watch).upcoming = w.upcoming := by
    rw [upcoming, queue, hlistener]
    rfl
  have hold : ∀ e ∈ errands, e.Fits heard w := fun e he => h.errands e (herrands e he)
  refine ⟨hlistener ▸ h.listens, ?_, fun hrun => absurd hrun hphase, fun x hx => ?_, ?_,
    fun e he => ?_⟩
  · rw [hupcoming]
    exact h.told
  · have hx' : x ∈ t.results.hits := hx
    rw [hnil] at hx'
    cases hx'
  · exact Or.inl ⟨hplanning, plans_eq_nil hold (by rw [hgeneration]; exact Nat.lt_succ_self _)⟩
  · refine (hold e he).mono hsequence (hgeneration ▸ Nat.le_succ _)
      (fun _ hrun => absurd hrun hphase) fun hsame => ?_
    exact absurd (hgeneration.symm.trans hsame) (Nat.succ_ne_self _)

/-! ### An answer replaces the hits -/

theorem mem_eagerLookups {s : Session} {work : Work} (h : work ∈ s.eagerLookups) :
    ∃ refs, work = .resolve s.results.generation refs := by
  rw [Session.eagerLookups] at h
  split at h
  · cases h
  · exact ⟨_, List.mem_singleton.mp h⟩

/-- **An answer is installed**: its hits, with what was heard while the query ran replayed over
them, replace those that are there. Nothing waits any more, and what is begun is the lookup of the
first hits. -/
structure Installs (kept : List RankedHit) (w w' : Watch) : Prop where
  corpus : w'.corpus = w.corpus
  change : w'.change = w.change
  listener : w'.session.listener = w.session.listener
  sequence : w'.session.sequence = w.session.sequence
  phase : w'.session.phase = .completed
  results : w'.session.results = (Session.replayOver w.corpus.store.resolve
    w.session.replay.take.1 (w.session.results.replace (Hit.classify kept))).1
  planning : w'.session.planning = none
  deferred : w'.session.deferred = []
  errands : ∀ e ∈ w'.errands, e ∈ w.errands ∨
    ∃ refs, e = .lookup w'.session.results.generation refs [] []

theorem Installs.generation {kept : List RankedHit} (h : Installs kept w w') :
    w'.session.results.generation = w.session.results.generation + 1 := by
  rw [h.results, Session.generation_replayOver]
  rfl

theorem installs_react (w : Watch) (position : Nat) (kept : List RankedHit) :
    Installs kept w ((w.without position).react
      (w.session.install w.corpus.store.resolve kept)) := by
  refine ⟨rfl, rfl, rfl, rfl, rfl, rfl, rfl, rfl, fun e he => ?_⟩
  rcases List.mem_append.mp he with he | he
  · exact Or.inl ((List.eraseIdx_sublist _ _).subset he)
  · obtain ⟨work, hwork, rfl⟩ := List.mem_map.mp he
    obtain ⟨refs, rfl⟩ := mem_eagerLookups hwork
    exact Or.inr ⟨refs, rfl⟩

/-- **An answer replaces the hits**, and the invariant is kept: the hits of the answer heed what was
heard and what is still to be heard, so after the replay they heed what is still to be heard. -/
theorem Current.installs {kept : List RankedHit} (h : w.Current heard)
    (hi : Installs kept w w') (hfaithful : w.corpus.store.Faithful)
    (hrun : w.session.phase = .running)
    (hkept : ∀ hit ∈ kept, ∀ thresholds,
      (Hit.ofRanked thresholds hit).Heeds (heard ++ w.upcoming) w.corpus.store) :
    w'.Current heard := by
  have hnot : w'.session.phase ≠ .running := by
    rw [hi.phase]
    decide
  have hupcoming : w'.upcoming = w.upcoming := by
    rw [upcoming, upcoming, queue, queue, hi.listener, hi.corpus, hi.change]
  have hplans : w'.plans = [] := by
    rw [plans, List.filter_eq_nil_iff]
    intro e he hp
    rcases hi.errands e he with hold | ⟨refs, rfl⟩
    -- older plans are for older hits
    · have hnewer : w.session.results.generation < w'.session.results.generation := by
        rw [hi.generation]
        exact Nat.lt_succ_self _
      exact List.filter_eq_nil_iff.mp (plans_eq_nil h.errands hnewer) e hold hp
    · cases hp
  have houtstanding : w'.outstanding = w.upcoming := by
    rw [outstanding, waiting, hplans, hupcoming, hi.deferred]
    rfl
  refine ⟨?_, fun ref a hw => ?_, fun hr => absurd hr hnot, fun x hx => ?_,
    Or.inl ⟨hi.planning, hplans⟩, fun e he => ?_⟩
  · rw [hi.listener, hi.corpus]
    exact h.listens
  · rw [hupcoming] at hw
    rw [hi.corpus]
    exact h.told ref a hw
  · rw [houtstanding, hi.corpus]
    rw [hi.results] at hx
    refine Session.heeds_of_mem_replayOver (h.held hrun) hfaithful (fun ref a ha => ?_)
      (fun y hy => ?_) hx
    · refine h.told ref a ?_
      rw [Event.lastWord?_append, ha, Option.some_or]
    · obtain ⟨hmem, -⟩ := ResultSet.mem_of_mem_replace hy
      obtain ⟨hit, hhit, rfl⟩ := List.mem_map.mp hmem
      exact hkept hit hhit _
  · rcases hi.errands e he with hold | ⟨refs, rfl⟩
    · refine (h.errands e hold).mono hi.sequence.ge (hi.generation ▸ Nat.le_succ _)
        (fun _ hr => absurd hr hnot) fun hsame => ?_
      exact absurd (hi.generation.symm.trans hsame) (Nat.succ_ne_self _)
    · exact ⟨Nat.le_refl _, fun _ v hv => by cases hv⟩

end Watch

end LiveSearch
