import LiveSearch.Proofs.Watch.Deliveries

/-!
# Batches that have their turn

A batch that is received and a plan that arrives do the same thing in different proportions: of the
batches that wait, and the new one behind them, a first part is applied to the hits, and the rest
waits (`Watch.Applies`). This says how the order of the batches is kept, whichever of them are
planned and however often the session begins another plan.

`Watch.applies_batch` and `Watch.applies_plan` are the two occasions, and `Watch.Current.applies`
draws the conclusion for the invariant.
-/

namespace LiveSearch.Watch

variable {heard : List Event} {first news : List (List Event)} {w w' : Watch}

/-- **Batches have their turn**: of those that wait, and of `news` behind them, those of `first` are
applied to the hits, and the others wait. Where there are no hits it does not matter which. -/
structure Applies (first news : List (List Event)) (w w' : Watch) : Prop where
  /-- The first part is applied. -/
  results : w'.session.results = (reconcileAll first w.session.results).1
  /-- The rest waits. -/
  waiting : w.session.results.hits ≠ [] → w.waiting ++ news = first ++ w'.waiting
  /-- There is one plan for the hits that are there, or none. -/
  planned : w'.OnePlan
  /-- Nothing is begun but plans. -/
  errands : ∀ e ∈ w'.errands, e ∈ w.errands ∨ e.plans w'.session.results.generation = true

namespace Applies

theorem generation (h : Applies first news w w') :
    w'.session.results.generation = w.session.results.generation := by
  rw [h.results, generation_reconcileAll]

/-- A hit that is there afterwards was there before, and heeds what was applied. -/
theorem from_hits (h : Applies first news w w') {x : Hit} (hx : x ∈ w'.session.results.hits) :
    ∃ y ∈ w.session.results.hits, y.after first.flatten = some x := by
  rw [h.results] at hx
  exact exists_of_mem_reconcileAll hx

/-- What was applied stood at the front of what was outstanding. -/
theorem outstanding (h : Applies first news w w')
    (hupcoming : w.upcoming = news.flatten ++ w'.upcoming)
    (hne : w'.session.results.hits ≠ []) :
    w.outstanding = first.flatten ++ w'.outstanding := by
  obtain ⟨x, hx⟩ := List.exists_mem_of_ne_nil _ hne
  obtain ⟨y, hy, -⟩ := h.from_hits hx
  have hflat := congrArg List.flatten (h.waiting (List.ne_nil_of_mem hy))
  rw [List.flatten_append, List.flatten_append] at hflat
  rw [Watch.outstanding, Watch.outstanding, hupcoming, ← List.append_assoc, hflat,
    List.append_assoc]

end Applies

/-- **Batches have their turn**, and the invariant is kept: what was applied was outstanding before,
and the rest still is. -/
theorem Current.applies (h : w.Current heard) (ha : Applies first news w w')
    (hstore : w'.corpus.store = w.corpus.store)
    (hsequence : w'.session.sequence = w.session.sequence)
    (hphase : w'.session.phase = w.session.phase)
    (hupcoming : w.upcoming = news.flatten ++ w'.upcoming)
    (hlistens : ∃ listener, w'.session.listener = some listener ∧
      w'.corpus.bus.Listens listener.subscription)
    (hheld : w'.session.phase = .running → w'.session.replay.Holds (heard ++ news.flatten)) :
    w'.Current (heard ++ news.flatten) := by
  have hheard : heard ++ news.flatten ++ w'.upcoming = heard ++ w.upcoming := by
    rw [hupcoming, List.append_assoc]
  refine ⟨hlistens, fun ref a hw => ?_, hheld, fun x hx => ?_, ha.planned, fun e he => ?_⟩
  · rw [hheard] at hw
    rw [hstore]
    exact h.told ref a hw
  · obtain ⟨y, hy, hafter⟩ := ha.from_hits hx
    have hheeds := h.hits y hy
    rw [ha.outstanding hupcoming (List.ne_nil_of_mem hx)] at hheeds
    rw [hstore]
    exact hheeds.after hafter
  · rcases ha.errands e he with hold | hplan
    · refine (h.errands e hold).mono hsequence.ge ha.generation.ge
        (fun _ hrun => ⟨hphase.symm.trans hrun, fun x hx => ?_⟩)
        fun _ v hv x hx href hitem hw => ?_
      · rw [hheard, hstore]
        exact hx
      · obtain ⟨y, hy, hafter⟩ := ha.from_hits hx
        rw [hstore]
        -- a hit without an item was not refreshed, so nothing of what was applied is about it
        rcases Hit.after_cases hafter with ⟨hsilent, rfl⟩ | ⟨item, -, rfl⟩
        · refine hv x hy href hitem ?_
          rw [ha.outstanding hupcoming (List.ne_nil_of_mem hx), Event.lastWord?_append, hw,
            Option.none_or, ← href]
          exact hsilent
        · cases hitem
    · cases e with
      | plan generation batch members =>
        have hg : generation = w'.session.results.generation := by
          simpa [Errand.plans] using hplan
        exact Nat.le_of_eq hg
      | _ => cases hplan

/-! ### Where nothing waits -/

/-- Where no plan is under way nothing waits. -/
theorem Current.waiting_eq_nil (h : w.Current heard) (hkept : w.session.WellKept)
    (hnone : w.session.planning = none) : w.plans = [] ∧ w.waiting = [] := by
  have hplans : w.plans = [] := by
    rcases h.planned with ⟨-, hnil⟩ | ⟨_, _, hsome, -⟩
    · exact hnil
    · rw [hnone] at hsome
      cases hsome
  refine ⟨hplans, ?_⟩
  rw [waiting, hplans, hkept.deferred hnone]
  rfl

/-! ### Taking work away -/

theorem mem_without {position : Nat} {e : Errand} (he : e ∈ (w.without position).errands) :
    e ∈ w.errands :=
  (List.eraseIdx_sublist _ _).subset he

/-- Work that is no plan for the hits that are there is taken away. -/
theorem plans_without {position : Nat} {e : Errand} (he : w.errands[position]? = some e)
    (hp : e.plans w.session.results.generation = false) : (w.without position).plans = w.plans :=
  filter_eraseIdx_of_neg fun x hx => by
    obtain rfl := Option.some.inj (he.symm.trans hx)
    exact hp

/-- Taking work away that is no plan for the hits lets nothing through. -/
theorem applies_without (h : w.Current heard) {position : Nat}
    (hplans : (w.without position).plans = w.plans) : Applies [] [] w (w.without position) := by
  refine ⟨rfl, fun _ => ?_, ?_, fun e he => Or.inl (mem_without he)⟩
  · rw [List.append_nil, List.nil_append, waiting, waiting, hplans]
    rfl
  · rw [OnePlan, hplans]
    exact h.planned

theorem react_of_work_nil (w : Watch) {reaction : Reaction} (h : reaction.work = []) :
    w.react reaction = { w with session := reaction.session } := by
  rw [react, h]
  simp

/-! ### Three ways to let batches through -/

/-- The hits stay, no plan is begun or finished, and what waits is what waited before and `news`. -/
theorem applies_of_still (hone : w.OnePlan) (hresults : w'.session.results = w.session.results)
    (herrands : w'.errands = w.errands) (hplanning : w'.session.planning = w.session.planning)
    (hdeferred : w.session.results.hits ≠ [] →
      w'.session.deferred = w.session.deferred ++ news) : Applies [] news w w' := by
  have hplans : w'.plans = w.plans := by rw [plans, plans, hresults, herrands]
  refine ⟨hresults, fun hne => ?_, ?_, fun e he => Or.inl (herrands ▸ he)⟩
  · rw [waiting, waiting, hplans, hdeferred hne, List.append_assoc, List.nil_append]
  · rw [OnePlan, hplanning, hplans, hresults]
    exact hone

/-- A first part is applied, and no plan is under way any more. -/
theorem applies_of_idle (hresults : w'.session.results = (reconcileAll first w.session.results).1)
    (hold : ∀ e ∈ w'.errands, e ∈ w.errands)
    (hplans : w'.errands.filter (Errand.plans w.session.results.generation) = [])
    (hplanning : w'.session.planning = none)
    (hwaiting : w.waiting ++ news = first ++ w'.session.deferred) : Applies first news w w' := by
  have hnil : w'.plans = [] := by
    rw [plans, hresults, generation_reconcileAll, hplans]
  refine ⟨hresults, fun _ => ?_, Or.inl ⟨hplanning, hnil⟩, fun e he => Or.inl (hold e he)⟩
  rw [hwaiting, waiting, hnil]
  rfl

/-- A first part is applied, and the batch behind it is being planned. -/
theorem applies_of_plan {errands : List Errand} (batch : List Event)
    (hresults : w'.session.results = (reconcileAll first w.session.results).1)
    (hold : ∀ e ∈ errands, e ∈ w.errands)
    (hplans : errands.filter (Errand.plans w.session.results.generation) = [])
    (herrands : w'.errands =
      errands ++ [.plan w.session.results.generation batch w'.session.results.refs])
    (hplanning : w'.session.planning = some w.session.results.generation)
    (hwaiting : w.waiting ++ news = first ++ batch :: w'.session.deferred) :
    Applies first news w w' := by
  have hgeneration : w'.session.results.generation = w.session.results.generation := by
    rw [hresults, generation_reconcileAll]
  have hone : w'.plans =
      [.plan w'.session.results.generation batch w'.session.results.refs] := by
    rw [plans, herrands, List.filter_append, hgeneration, hplans]
    simp [Errand.plans]
  refine ⟨hresults, fun _ => ?_, Or.inr ⟨batch, _, ?_, hone, fun x hx => ?_⟩, fun e he => ?_⟩
  · rw [hwaiting, waiting, hone]
    rfl
  · rw [hplanning, hgeneration]
  · exact ResultSet.mem_refs.mpr ⟨x, hx, rfl⟩
  · rw [herrands] at he
    rcases List.mem_append.mp he with he | he
    · exact Or.inl (hold e he)
    · rw [List.mem_singleton.mp he, hgeneration]
      right
      simp [Errand.plans]

/-! ### A batch is received -/

/-- What is received next stood at the front of what was to be heard. -/
theorem next?_eq_some {batch : List Event} {bus : Bus} (hnext : w.next? = some (batch, bus)) :
    ∃ listener, w.session.listener = some listener ∧
      (w.corpus.bus.receive listener.subscription).2 = some batch ∧
      bus = (w.corpus.bus.receive listener.subscription).1 := by
  obtain ⟨listener, hlistener, hrest⟩ := Option.bind_eq_some_iff.mp hnext
  obtain ⟨received, hreceived, hpair⟩ := Option.bind_eq_some_iff.mp hrest
  obtain ⟨rfl, rfl⟩ := Prod.mk.inj (Option.some.inj hpair)
  exact ⟨listener, hlistener, hreceived, rfl⟩

/-- **A batch that is received** lets itself through, or waits behind all others. -/
theorem applies_batch (h : w.Current heard) (hkept : w.session.WellKept) (batch : List Event)
    (bus : Bus) :
    ∃ first, Applies first [batch] w ((w.withBus bus).react (w.session.handleBatch batch)) := by
  have hidle : w.session.planning = none →
      w.errands.filter (Errand.plans w.session.results.generation) = [] ∧ w.waiting = [] :=
    h.waiting_eq_nil hkept
  obtain ⟨replay, hcases⟩ := w.session.handleBatch_cases batch
  rcases hcases with ⟨hnil, heq⟩ | ⟨-, heq⟩ | ⟨hnone, heq⟩ | ⟨hnone, heq⟩ <;> rw [heq]
  -- there are no hits
  · rw [react_of_work_nil _ rfl]
    exact ⟨[], applies_of_still h.planned rfl rfl rfl fun hne => absurd hnil hne⟩
  -- the batch waits for the plan under way
  · rw [react_of_work_nil _ rfl]
    exact ⟨[], applies_of_still h.planned rfl rfl rfl fun _ => rfl⟩
  -- the batch is planned
  · obtain ⟨hplans, hwaiting⟩ := hidle hnone
    refine ⟨[], applies_of_plan batch rfl (fun _ he => he) hplans rfl rfl ?_⟩
    rw [hwaiting]
    exact congrArg (batch :: ·) (hkept.deferred hnone).symm
  -- the batch is applied
  · obtain ⟨hplans, hwaiting⟩ := hidle hnone
    rw [react_of_work_nil _ rfl]
    refine ⟨[batch], applies_of_idle rfl (fun _ he => he) hplans hnone ?_⟩
    rw [hwaiting]
    exact congrArg (batch :: ·) (hkept.deferred hnone).symm

/-! ### A plan is delivered -/

/-- What comes of planning does to the hits what the batch would do. -/
theorem carryOut_of_onePlan {generation : Nat} {batch : List Event} {members : List Reference}
    {plan : Except (List Event) Plan}
    (hends : (Errand.plan generation batch members).EndsWith (.planned generation plan))
    (hmembers : ∀ x ∈ w.session.results.hits, x.ref ∈ members) :
    (Session.carryOut plan w.session.results).1 = (reconcile batch w.session.results).1 := by
  cases hends with
  | plan =>
    rw [Session.carryOut_ok, reconcile_fst]
    exact Plan.apply_ofEvents fun x hx => by simpa using hmembers x hx
  | unplanned => rfl

/-- **A plan that is delivered**, or a batch without one, lets its batch through, and some of those
that wait for it; if it has come too late, it lets nothing through. -/
theorem applies_plan (h : w.Current heard) {position generation : Nat} {batch : List Event}
    {members : List Reference} {plan : Except (List Event) Plan}
    (he : w.errands[position]? = some (.plan generation batch members))
    (hends : (Errand.plan generation batch members).EndsWith (.planned generation plan)) :
    ∃ first, Applies first [] w
      ((w.without position).react (w.session.applyPlan generation plan)) := by
  by_cases hnow : w.session.planning = some generation ∧
    w.session.results.generation = generation
  · obtain ⟨hplanning, rfl⟩ := hnow
    rcases h.planned with ⟨hnone, -⟩ | ⟨planned, members', -, hone, hmembers⟩
    · rw [hnone] at hplanning
      cases hplanning
    · obtain ⟨heq, hnil⟩ := filter_eraseIdx_of_pos he (by simp [Errand.plans]) hone
      obtain ⟨rfl, rfl⟩ : batch = planned ∧ members = members' := by
        injection heq with _ h1 h2
        exact ⟨h1, h2⟩
      have hbefore : w.waiting = batch :: w.session.deferred := by
        rw [waiting, hone]
        rfl
      rw [Session.applyPlan_of_planning hplanning, carryOut_of_onePlan hends hmembers]
      obtain ⟨applied, left, hsplit, -, hleft⟩ := Session.drain_spec w.session.deferred
        { w.session with results := (reconcile batch w.session.results).1, planning := none }
        (Session.carryOut plan w.session.results).2 rfl
      rw [hsplit] at hbefore
      refine ⟨batch :: applied, ?_⟩
      rcases hleft with ⟨rfl, hwork, hsession⟩ | ⟨next, rest, rfl, hwork, hsession⟩
      -- nothing is left to wait
      · rw [react_of_work_nil _ hwork, hsession]
        refine applies_of_idle rfl (fun _ he => mem_without he) hnil rfl ?_
        rw [hbefore, List.append_nil]
        rfl
      -- the next batch is planned in its turn
      · rw [react, hwork, hsession]
        have hgeneration := generation_reconcile batch w.session.results
        refine applies_of_plan next rfl (fun _ he => mem_without he) hnil ?_ ?_ ?_
        · rw [← hgeneration]
          rfl
        · exact congrArg some hgeneration
        · rw [hbefore, List.append_nil]
          rfl
  -- it has come too late
  · rw [Session.applyPlan_of_not hnow, react_of_work_nil _ rfl]
    refine ⟨[], applies_without h ?_⟩
    by_cases hg : generation = w.session.results.generation
    · subst hg
      rcases h.planned with ⟨-, hnil⟩ | ⟨_, _, hsome, -⟩
      · have hmem : Errand.plan w.session.results.generation batch members ∈ w.plans :=
          List.mem_filter.mpr ⟨List.mem_of_getElem? he, by simp [Errand.plans]⟩
        rw [hnil] at hmem
        cases hmem
      · exact absurd ⟨hsome, rfl⟩ hnow
    · exact plans_without he (by simpa [Errand.plans] using hg)

end LiveSearch.Watch
