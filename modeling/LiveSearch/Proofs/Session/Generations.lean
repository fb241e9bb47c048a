import LiveSearch.Proofs.ResultSet.Dwindling
import LiveSearch.Proofs.ResultSet.Replace
import LiveSearch.Proofs.Session.Staleness

/-!
# The generations of a session

The hits of a session belong to a **generation**, which ends with the next answer that counts, with
a failure, a clearing or a closing. One act either begins the next generation, with a new answer or
with nothing at all, or the hits of this one only dwindle (`Session.results_act`). Hence the hits of
a generation dwindle from its beginning to its end (`Session.dwindles_runs`), and every set of hits
that can occur is well-formed (`Session.Reachable.wellFormed`).
-/

namespace LiveSearch.Session

/-- **A new generation begins**, with nothing or with what is left of a new answer. -/
structure Renews (rs rs' : ResultSet) : Prop where
  generation : rs'.generation = rs.generation + 1
  hits : rs'.hits = [] ∨ ∃ hits, (rs.replace (Hit.classify hits)).Dwindles rs'

variable {s : Session}

/-! ### Single acts -/

theorem renews_clear (rs : ResultSet) : Renews rs rs.clear :=
  ⟨rfl, Or.inl rfl⟩

/-- An answer renews the hits if it counts. -/
theorem results_complete (resolver : Resolver) (s : Session) (sequence : Nat)
    (answer : Except Failure (List RankedHit)) :
    s.results.Dwindles (s.complete resolver sequence answer).session.results ∨
      Renews s.results (s.complete resolver sequence answer).session.results := by
  by_cases hnow : sequence = s.sequence ∧ s.phase = .running
  · obtain ⟨rfl, hrun⟩ := hnow
    rcases answer with e | hits
    · rw [complete_error hrun]
      exact Or.inr (renews_clear s.results)
    · rw [complete_ok hrun]
      exact Or.inr ⟨generation_install resolver s hits,
        Or.inr ⟨hits, ResultSet.dwindles_replayOver resolver _ _⟩⟩
  · rw [complete_of_not hnow]
    exact Or.inl (.refl _)

/-- A batch makes the hits dwindle, if it is applied at once. -/
theorem dwindles_handleBatch (s : Session) (batch : List Event) :
    s.results.Dwindles (s.handleBatch batch).session.results := by
  obtain ⟨replay, hcases⟩ := s.handleBatch_cases batch
  rcases hcases with ⟨-, heq⟩ | ⟨-, heq⟩ | ⟨-, heq⟩ | ⟨-, heq⟩ <;> rw [heq]
  · exact .refl _
  · exact .refl _
  · exact .refl _
  · exact ResultSet.dwindles_reconcile batch s.results

/-- A plan makes the hits dwindle, and so do the batches that have waited for it. -/
theorem dwindles_applyPlan (s : Session) (generation : Nat) (p : Except (List Event) Plan) :
    s.results.Dwindles (s.applyPlan generation p).session.results := by
  by_cases hnow : s.planning = some generation ∧ s.results.generation = generation
  · obtain ⟨hplan, rfl⟩ := hnow
    obtain ⟨plan, hcarried⟩ := exists_carryOut p s.results
    have hdwindles : ∀ batches,
        s.results.Dwindles (LiveSearch.reconcileAll batches (plan.apply s.results).1).1 :=
      fun batches => (ResultSet.dwindles_apply plan s.results).trans
        (ResultSet.dwindles_reconcileAll batches _)
    rw [applyPlan_of_planning hplan, hcarried]
    obtain ⟨applied, left, -, -, ⟨-, -, heq⟩ | ⟨batch, rest, -, -, heq⟩⟩ := drain_spec s.deferred
      { s with results := (plan.apply s.results).1, planning := none }
      (plan.apply s.results).2 rfl <;>
      rw [heq] <;> exact hdwindles applied
  · rw [applyPlan_of_not hnow]
    exact .refl _

theorem dwindles_attachResolved (s : Session) (generation : Nat) (items : List Item)
    (missing : List Reference) :
    s.results.Dwindles (s.attachResolved generation items missing).session.results := by
  rw [attachResolved]
  split
  · exact ResultSet.dwindles_lookup items missing s.results
  · exact .refl _

/-- **What an act does to the hits**: they dwindle, or a new generation begins. -/
theorem results_act (resolver : Resolver) (s : Session) (a : Act) :
    s.results.Dwindles (s.act resolver a).results ∨
      Renews s.results (s.act resolver a).results := by
  cases a with
  | issue conditions =>
    rw [act]
    cases hissue : s.issue conditions with
    | ok running =>
      obtain ⟨-, -, rfl⟩ := issue_ok hissue
      exact Or.inl (.refl _)
    | error e => exact Or.inl (.refl _)
  | clear =>
    rw [act, clear]
    split
    · exact Or.inl (.refl _)
    · exact Or.inr (renews_clear _)
  | close =>
    rw [act, close]
    split
    · exact Or.inl (.refl _)
    · exact Or.inr (renews_clear _)
  | setOrder order => exact Or.inl (s.results.dwindles_setOrder order)
  | resort => exact Or.inl s.results.dwindles_resort
  | materialize start stop =>
    rw [act]
    cases hm : s.materialize resolver start stop with
    | ok result =>
      obtain ⟨after, shown⟩ := result
      obtain rfl := session_materialize hm
      exact Or.inl (ResultSet.dwindles_materializeRefs resolver _ s.results)
    | error e => exact Or.inl (.refl _)
  | answer sequence answer => exact s.results_complete resolver sequence answer
  | lookups generation items missing =>
    exact Or.inl (s.dwindles_attachResolved generation items missing)
  | plan generation batch isMember => exact Or.inl (s.dwindles_applyPlan generation _)
  | unplanned generation batch => exact Or.inl (s.dwindles_applyPlan generation _)
  | batch events => exact Or.inl (s.dwindles_handleBatch events)
  | silence => exact Or.inl (.refl _)

/-! ### Runs -/

/-- Generations never return. -/
theorem generation_le_runs (s : Session) (steps : List (Resolver × Act)) :
    s.results.generation ≤ (s.runs steps).results.generation := by
  induction steps using List.reverseRecOn with
  | nil => exact Nat.le_refl _
  | append_singleton steps step ih =>
    rw [runs_snoc]
    rcases (s.runs steps).results_act step.1 step.2 with hdwindles | hrenews
    · exact Nat.le_trans ih (Nat.le_of_eq hdwindles.generation.symm)
    · exact Nat.le_trans ih (hrenews.generation ▸ Nat.le_succ _)

/-- **Within a generation hits only dwindle.** -/
theorem dwindles_runs {steps : List (Resolver × Act)}
    (hsame : (s.runs steps).results.generation = s.results.generation) :
    s.results.Dwindles (s.runs steps).results := by
  induction steps using List.reverseRecOn with
  | nil => exact .refl _
  | append_singleton steps step ih =>
    have hbefore := s.generation_le_runs steps
    rw [runs_snoc] at hsame ⊢
    rcases (s.runs steps).results_act step.1 step.2 with hdwindles | hrenews
    · exact (ih (hdwindles.generation.symm.trans hsame)).trans hdwindles
    -- the generation would have passed
    · have hnext := hrenews.generation
      omega

theorem Renews.wellFormed {rs rs' : ResultSet} (h : Renews rs rs') : rs'.WellFormed := by
  rcases h.hits with hnil | ⟨hits, hdwindles⟩
  · refine ResultSet.wellFormed_iff.mpr ?_
    rw [ResultSet.refs, hnil]
    exact List.nodup_nil
  · exact hdwindles.wellFormed (ResultSet.wellFormed_iff.mpr (rs.nodup_refs_replace _))

/-- **The hits of a session are well-formed** at all times: each reference has one hit at most. -/
theorem Reachable.wellFormed (h : s.Reachable) : s.results.WellFormed := by
  induction h with
  | fresh settings subscription => exact ResultSet.wellFormed_iff.mpr List.nodup_nil
  | @act resolver s a _ ih =>
    rcases s.results_act resolver a with hdwindles | hrenews
    · exact hdwindles.wellFormed ih
    · exact hrenews.wellFormed

end LiveSearch.Session
