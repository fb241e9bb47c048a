import LiveSearch.Proofs.Watch.Course

/-!
# How a hit is carried along

What a move does to the hit of one reference (`Watch.Carries`), as long as the store has an item
under this reference and the hits stay of one generation. Changes, queries and lookups leave the hit
where it is; only batches can take it away, and they do it exactly if they are applied and have a
removal for their last word on the reference (`Watch.carries_step`).

A lookup would take a hit away, too, whose item it misses. What a lookup has missed is known before
it is delivered, so it is part of the account (`Watch.Finds`) that nothing has been missed so far.
-/

namespace LiveSearch

/-! ### Lookups that miss a reference -/

/-- Has the work, as a lookup for the hits of a generation, missed the reference? -/
def Errand.Misses (generation : Nat) (ref : Reference) : Errand → Prop
  | .lookup g _ _ missing => g = generation ∧ ref ∈ missing
  | _ => False

/-- A reading does not miss what is stored. -/
theorem Errand.misses_of_proceed {generation : Nat} {ref : Reference} {sources : Sources}
    {item : Item} (hstored : sources.resolver ref = .ok item) {e : Errand}
    (h : (e.proceed sources).Misses generation ref) : e.Misses generation ref := by
  cases e with
  | asked sequence conditions matchAll verify =>
    rw [proceed] at h
    cases hanswer : sources.provider.execute conditions matchAll with
    | error e =>
      rw [hanswer] at h
      cases h
    | ok hits =>
      rw [hanswer] at h
      cases verify <;> cases h
  | answered sequence kept rest => cases rest <;> cases h
  | failed sequence e => cases h
  | lookup g rest found missing =>
    cases rest with
    | nil => exact h
    | cons r rest =>
      rw [proceed] at h
      cases hr : sources.resolver r with
      | ok v =>
        rw [hr] at h
        exact h
      | error e =>
        rw [hr] at h
        obtain ⟨hg, hmem⟩ := h
        refine ⟨hg, ?_⟩
        split at hmem
        · rcases List.mem_append.mp hmem with hmem | hmem
          · exact hmem
          · rw [List.mem_singleton.mp hmem, hr] at hstored
            cases hstored
        · exact hmem
  | plan g batch members => cases h

/-- What is stored is not missed. -/
theorem Resolver.not_mem_missing {resolver : Resolver} {ref : Reference} {item : Item}
    (hstored : resolver ref = .ok item) (refs : List Reference) : ref ∉ resolver.missing refs := by
  intro hmem
  have hmisses := (List.mem_filter.mp hmem).2
  rw [misses, hstored] at hmisses
  cases hmisses

namespace Watch

variable {heard : List Event} {first news : List (List Event)} {ref : Reference}
  {w w' w'' : Watch}

/-! ### What a move does to the hit of a reference -/

/-- None of the batches has a removal for its last word on the reference. -/
def Spares (ref : Reference) (batches : List (List Event)) : Prop :=
  ∀ batch ∈ batches, Event.lastWord? batch ref ≠ some .remove

theorem spares_append {xs ys : List (List Event)} :
    Spares ref (xs ++ ys) ↔ Spares ref xs ∧ Spares ref ys :=
  List.forall_mem_append

/-- No lookup for the hits that are there has missed the reference. -/
def Finds (w : Watch) (ref : Reference) : Prop :=
  ∀ e ∈ w.errands, ¬e.Misses w.session.results.generation ref

/-- **The hit of a reference is carried along**: of the batches that wait, and of `news` behind
them, those of `first` are applied, and they alone decide whether the hit stays. -/
structure Carries (ref : Reference) (first news : List (List Event)) (w w' : Watch) : Prop where
  /-- The rest waits. -/
  waiting : w.session.results.hits ≠ [] → w.waiting ++ news = first ++ w'.waiting
  /-- The first part decides. -/
  refs : ref ∈ w'.session.results.refs ↔ ref ∈ w.session.results.refs ∧ Spares ref first
  /-- No lookup misses the reference. -/
  finds : w'.Finds ref

theorem Applies.carries (h : Applies first news w w') (hfinds : w.Finds ref) :
    Carries ref first news w w' := by
  refine ⟨h.waiting, ?_, fun e he hmisses => ?_⟩
  · rw [h.results]
    exact mem_refs_reconcileAll
  · rcases h.errands e he with hold | hplan
    · rw [h.generation] at hmisses
      exact hfinds e hold hmisses
    · cases e with
      | lookup generation rest found missing => cases hplan
      | _ => cases hmisses

/-- A move that lets nothing through carries the hit along if it leaves it there. -/
theorem carries_of_still
    (hrefs : ref ∈ w'.session.results.refs ↔ ref ∈ w.session.results.refs)
    (hwaiting : w'.waiting = w.waiting) (hfinds : w'.Finds ref) : Carries ref [] [] w w' := by
  refine ⟨fun _ => ?_, ?_, hfinds⟩
  · rw [List.append_nil, List.nil_append, hwaiting]
  · rw [hrefs]
    exact ⟨fun h => ⟨h, fun _ hb => by cases hb⟩, And.left⟩

/-- The hits of the generation change, and the hit of the reference is there as before. -/
theorem carries_of_results {results : ResultSet} {errands : List Errand}
    (hw' : w' = { w with session := { w.session with results }, errands })
    (hgeneration : results.generation = w.session.results.generation)
    (hrefs : ref ∈ results.refs ↔ ref ∈ w.session.results.refs)
    (hplans : errands.filter (Errand.plans w.session.results.generation) = w.plans)
    (hfinds : ∀ e ∈ errands, ¬e.Misses w.session.results.generation ref) :
    Carries ref [] [] w w' := by
  subst hw'
  refine carries_of_still hrefs ?_ fun e he => ?_
  · rw [waiting, plans, hgeneration, hplans]
    rfl
  · rw [hgeneration]
    exact hfinds e he

theorem Carries.refl (hfinds : w.Finds ref) : Carries ref [] [] w w :=
  carries_of_still Iff.rfl rfl hfinds

/-! #### Messages -/

/-- **An answer carries the hit along**, unless it ends the generation: one that counts does, and
another one changes nothing. -/
theorem carries_answer (h : w.Current heard) (hfinds : w.Finds ref) {position sequence : Nat}
    {e : Errand} (he : w.errands[position]? = some e)
    (hp : e.plans w.session.results.generation = false)
    (answer : Except Failure (List RankedHit))
    (hsame : (w.ending position (.answered sequence answer)).session.results.generation =
      w.session.results.generation) :
    Carries ref [] [] w (w.ending position (.answered sequence answer)) := by
  have hstale : w.session.complete w.corpus.sources.resolver sequence answer =
      { session := w.session, update := .stale sequence } := by
    refine Session.complete_of_not (fun hnow => ?_) _ _
    obtain ⟨rfl, hrun⟩ := hnow
    have hnext := Session.generation_complete hrun w.corpus.sources.resolver answer
    exact absurd (hnext.symm.trans hsame) (Nat.succ_ne_self _)
  show Carries ref [] [] w ((w.without position).react
    (w.session.complete w.corpus.sources.resolver sequence answer))
  rw [hstale, react_of_work_nil _ rfl]
  exact (applies_without h (plans_without he hp)).carries hfinds

/-- **A lookup carries the hit along**, as it has not missed it. -/
theorem carries_lookup (h : w.Current heard) (hfinds : w.Finds ref) {position generation : Nat}
    {found : List Item} {missing : List Reference}
    (he : w.errands[position]? = some (.lookup generation [] found missing)) :
    Carries ref [] [] w (w.ending position (.resolved generation found missing)) := by
  show Carries ref [] [] w ((w.without position).react
    (w.session.attachResolved generation found missing))
  rw [Session.attachResolved]
  split
  · next hg =>
    have hfound : ref ∉ missing := fun hmem =>
      hfinds _ (List.mem_of_getElem? he) ⟨hg.symm, hmem⟩
    rw [react_of_work_nil _ rfl]
    refine carries_of_results rfl ?_ (Session.mem_refs_attachAll _ hfound)
      (plans_without he rfl) fun e he => hfinds e (mem_without he)
    rw [Session.attachAll_fst]
    rfl
  · rw [react_of_work_nil _ rfl]
    exact (applies_without h (plans_without he rfl)).carries hfinds

/-- **Work that ends carries the hit along**, unless it ends the generation. -/
theorem carries_ending (h : w.Current heard) (hfinds : w.Finds ref) {position : Nat} {e : Errand}
    {message : Message} (he : w.errands[position]? = some e) (hends : e.EndsWith message)
    (hsame : (w.ending position message).session.results.generation =
      w.session.results.generation) :
    ∃ first, Carries ref first [] w (w.ending position message) := by
  cases hends with
  | answer sequence kept => exact ⟨[], carries_answer h hfinds he rfl _ hsame⟩
  | failure failure hquery =>
    exact ⟨[], carries_answer h hfinds he (Errand.plans_of_sequence? _ hquery) _ hsame⟩
  | lookup generation found missing => exact ⟨[], carries_lookup h hfinds he⟩
  | plan generation batch members =>
    obtain ⟨first, happlies⟩ := applies_plan h he (.plan generation batch members)
    exact ⟨first, happlies.carries hfinds⟩
  | unplanned generation batch members =>
    obtain ⟨first, happlies⟩ := applies_plan h he (.unplanned generation batch members)
    exact ⟨first, happlies.carries hfinds⟩

/-! #### Every move -/

/-- **A move carries the hit along**, unless it ends the generation: the store has the item, so no
lookup misses it. -/
theorem carries_step (h : w.Sound heard) (hopen : w.session.phase ≠ .closed) {item : Item}
    (hstored : w.corpus.store.resolve ref = .ok item) (hfinds : w.Finds ref) (m : Move)
    (hsame : (w.step m).session.results.generation = w.session.results.generation) :
    ∃ first, Carries ref first (w.brings m) w (w.step m) := by
  have hcurrent := h.current hopen
  cases m with
  | edit e =>
    refine ⟨[], ?_⟩
    rw [step]
    split
    · exact carries_of_still Iff.rfl rfl hfinds
    · exact .refl hfinds
  | write => exact ⟨[], carries_of_still Iff.rfl rfl hfinds⟩
  | issue conditions matchAll =>
    refine ⟨[], ?_⟩
    rcases w.step_issue conditions matchAll with ⟨-, -, heq⟩ | ⟨-, heq⟩ <;> rw [heq]
    · refine carries_of_still Iff.rfl ?_ fun e he => ?_
      · rw [waiting, plans_asking]
        rfl
      · rcases List.mem_append.mp he with hold | hnew
        · exact hfinds e hold
        · rw [List.mem_singleton.mp hnew]
          exact id
    · exact .refl hfinds
  | clear =>
    -- clearing and closing end the generation
    have hend : (w.step .clear).session.results.generation = w.session.results.generation + 1 := by
      rw [step, Session.clear, if_neg (by simpa [Session.isClosed] using hopen)]
      rfl
    exact absurd (hend.symm.trans hsame) (Nat.succ_ne_self _)
  | close =>
    have hend : (w.step .close).session.results.generation = w.session.results.generation + 1 := by
      rw [step]
      split <;> rw [Session.close, if_neg (by simpa [Session.isClosed] using hopen)] <;> rfl
    exact absurd (hend.symm.trans hsame) (Nat.succ_ne_self _)
  | setOrder order => exact ⟨[], carries_of_results rfl rfl Iff.rfl rfl hfinds⟩
  | resort =>
    refine ⟨[], carries_of_results rfl rfl ?_ rfl hfinds⟩
    exact ((List.mergeSort_perm _ _).map _).mem_iff
  | materialize start stop =>
    refine ⟨[], ?_⟩
    rw [step]
    cases hm : w.session.materialize w.corpus.sources.resolver start stop with
    | error e => exact .refl hfinds
    | ok result =>
      obtain ⟨after, shown⟩ := result
      obtain rfl := Session.session_materialize hm
      refine carries_of_results rfl ?_ ?_ rfl hfinds
      · rw [Session.materializeRefs, Session.attachAll_fst]
        rfl
      · exact Session.mem_refs_attachAll _ (Resolver.not_mem_missing hstored _)
  | proceed position =>
    refine ⟨[], carries_of_still Iff.rfl ?_ fun e he hmisses => ?_⟩
    · rw [waiting, plans_proceed]
      rfl
    · rcases mem_modify he with hold | ⟨e', hmem, rfl⟩
      · exact hfinds e hold hmisses
      · exact hfinds e' hmem (Errand.misses_of_proceed hstored hmisses)
  | deliver position =>
    rcases w.step_deliver position with heq | ⟨e, message, he, hends, heq⟩ <;> rw [heq] at hsame ⊢
    · exact ⟨[], .refl hfinds⟩
    · exact carries_ending hcurrent hfinds he hends hsame
  | breakOff position reason =>
    rcases w.step_breakOff position reason with ⟨heq, hsilent⟩ | ⟨e, message, he, hends, heq⟩ <;>
      rw [heq] at hsame ⊢
    · have hplans : (w.without position).plans = w.plans :=
        filter_eraseIdx_of_neg fun e he => Errand.plans_of_breakOff? _ (hsilent e he)
      exact ⟨[], (applies_without hcurrent hplans).carries hfinds⟩
    · exact carries_ending hcurrent hfinds he hends hsame
  | receive =>
    rw [step, brings]
    cases w.next? with
    | none => exact ⟨[], .refl hfinds⟩
    | some next =>
      obtain ⟨first, happlies⟩ := applies_batch hcurrent h.kept next.1 next.2
      exact ⟨first, happlies.carries hfinds⟩

end Watch

end LiveSearch
