import LiveSearch.Proofs.ResultSet.Lookup
import LiveSearch.Proofs.Session.Acts

/-!
# What holds of every session

Every session that can occur is **well kept** (`Session.Reachable.wellKept`): a plan under way is
for the hits that are there, batches wait only for a plan, events are kept only while a query runs,
and there are no hits before the first answer, after a failure and after a closing.

Each act is shown to keep the four facts by itself, so that the same lemmas serve a session that is
observed together with its corpus.
-/

namespace LiveSearch

namespace ReplayBuffer

/-- The buffer holds nothing. -/
def IsClear (b : ReplayBuffer) : Prop :=
  b.events = [] ∧ b.evicted = []

theorem isClear_clear (b : ReplayBuffer) : b.clear.IsClear := ⟨rfl, rfl⟩

end ReplayBuffer

namespace Session

/-- **A well-kept session.** -/
structure WellKept (s : Session) : Prop where
  /-- A plan under way is for the hits that are there. -/
  planning : ∀ g, s.planning = some g → g = s.results.generation
  /-- Batches wait only for a plan. -/
  deferred : s.planning = none → s.deferred = []
  /-- Events are kept only while a query runs. -/
  replay : s.phase ≠ .running → s.replay.IsClear
  /-- There are hits only while a query runs or when it has been answered. -/
  empty : s.phase ≠ .running → s.phase ≠ .completed → s.results.hits = []

namespace WellKept

variable {s : Session}

theorem fresh (settings : Settings) (subscription : Nat) :
    WellKept (fresh settings subscription) :=
  ⟨by simp [Session.fresh], fun _ => rfl, fun _ => ⟨rfl, rfl⟩, fun _ _ => rfl⟩

/-- What is dropped with the hits leaves a well-kept session, whatever it does next. -/
theorem resetResults {t : Session} (hr : t.results = s.results.clear) (hp : t.planning = none)
    (hd : t.deferred = []) (hb : t.replay = s.replay.clear) : WellKept t :=
  ⟨by simp [hp], fun _ => hd, fun _ => hb ▸ s.replay.isClear_clear, fun _ _ => by rw [hr]; rfl⟩

/-- Other hits of the same generation, which are none where there were none. -/
theorem withResults {results : ResultSet} (h : s.WellKept)
    (hg : results.generation = s.results.generation)
    (he : s.results.hits = [] → results.hits = []) : WellKept { s with results } :=
  ⟨fun g hp => (h.planning g hp).trans hg.symm, h.deferred, h.replay,
    fun h1 h2 => he (h.empty h1 h2)⟩

theorem begin (h : s.WellKept) : s.begin.WellKept :=
  ⟨h.planning, h.deferred, fun hr => absurd rfl hr, fun hr => absurd rfl hr⟩

theorem issue {running : Session} {conditions : List Condition} (h : s.WellKept)
    (hi : s.issue conditions = .ok running) : running.WellKept := by
  rw [(issue_ok hi).2.2]
  exact h.begin

theorem clear (h : s.WellKept) : s.clear.WellKept := by
  rw [Session.clear]
  split
  · exact h
  · exact resetResults rfl rfl rfl rfl

theorem close (h : s.WellKept) : s.close.WellKept := by
  rw [Session.close]
  split
  · exact h
  · exact resetResults rfl rfl rfl rfl

theorem resort (h : s.WellKept) : s.resort.WellKept := by
  refine h.withResults rfl fun hnil => ?_
  rw [ResultSet.resort, hnil]
  exact List.mergeSort_nil

theorem remember (h : s.WellKept) (batch : List Event) : (s.remember batch).WellKept := by
  rw [Session.remember]
  split
  · next hrun => exact ⟨h.planning, h.deferred, fun hr => absurd hrun hr, h.empty⟩
  · exact h

theorem reconcileAll (h : s.WellKept) (batches : List (List Event)) :
    WellKept { s with results := (reconcileAll batches s.results).1 } := by
  refine h.withResults (generation_reconcileAll _ _) fun hnil => ?_
  rw [reconcileAll_of_hits_nil hnil]
  exact hnil

theorem dispatch (h : s.WellKept) (batch : List Event) : (s.dispatch batch).session.WellKept := by
  rcases s.dispatch_cases batch with ⟨-, heq⟩ | ⟨hsome, heq⟩ | ⟨hnone, heq⟩ | ⟨hnone, heq⟩ <;>
    rw [heq]
  · exact h
  -- a batch waits only for a plan that is under way
  · refine ⟨h.planning, fun hn => ?_, h.replay, h.empty⟩
    have hn' : s.planning = none := hn
    rw [hn'] at hsome
    exact absurd hsome (by simp)
  · exact ⟨fun g hg => (Option.some.inj hg).symm, fun hn => absurd hn (by simp [startPlan]),
      h.replay, h.empty⟩
  · exact h.reconcileAll [batch]

theorem handleBatch (h : s.WellKept) (batch : List Event) :
    (s.handleBatch batch).session.WellKept :=
  (h.remember batch).dispatch batch

theorem applyPlan (h : s.WellKept) (generation : Nat) (p : Except (List Event) Plan) :
    (s.applyPlan generation p).session.WellKept := by
  by_cases hnow : s.planning = some generation ∧ s.results.generation = generation
  · obtain ⟨hplan, rfl⟩ := hnow
    obtain ⟨plan, hcarried⟩ := exists_carryOut p s.results
    have hgen : (plan.apply s.results).1.generation = s.results.generation := by
      rw [Plan.apply_fst]
    have hempty : s.results.hits = [] → (plan.apply s.results).1.hits = [] := by
      intro hnil
      rw [Plan.apply_fst, hnil]
      rfl
    rw [applyPlan_of_planning hplan, hcarried]
    obtain ⟨applied, left, -, -, ⟨-, -, heq⟩ | ⟨batch, rest, -, -, heq⟩⟩ := drain_spec s.deferred
      { s with results := (plan.apply s.results).1, planning := none } (plan.apply s.results).2 rfl
    · rw [heq]
      refine ⟨by simp, fun _ => rfl, h.replay, fun h1 h2 => ?_⟩
      have hnil := hempty (h.empty h1 h2)
      simp only [reconcileAll_of_hits_nil hnil, hnil]
    · rw [heq]
      refine ⟨fun g hg => ?_, by simp, h.replay, fun h1 h2 => ?_⟩
      · rw [← Option.some.inj hg, generation_reconcileAll]
      · have hnil := hempty (h.empty h1 h2)
        simp only [reconcileAll_of_hits_nil hnil, hnil]
  · rw [applyPlan_of_not hnow]
    exact h

theorem attachResolved (h : s.WellKept) (generation : Nat) (items : List Item)
    (missing : List Reference) : (s.attachResolved generation items missing).session.WellKept := by
  rw [Session.attachResolved]
  split
  · refine h.withResults (by rw [attachAll_fst]; rfl) fun hnil => ?_
    rw [attachAll_fst, hnil]
    rfl
  · exact h

theorem materialize {resolver : Resolver} {start stop : Nat} {after : Session} {shown : List Hit}
    (h : s.WellKept) (hm : s.materialize resolver start stop = .ok (after, shown)) :
    after.WellKept := by
  rw [session_materialize hm]
  refine h.withResults (by rw [materializeRefs, attachAll_fst]; rfl) fun hnil => ?_
  rw [materializeRefs, attachAll_fst, hnil]
  rfl

theorem complete (h : s.WellKept) (resolver : Resolver) (sequence : Nat)
    (answer : Except Failure (List RankedHit)) :
    (s.complete resolver sequence answer).session.WellKept := by
  by_cases hnow : sequence = s.sequence ∧ s.phase = .running
  · obtain ⟨rfl, hrun⟩ := hnow
    cases answer with
    | ok hits =>
      rw [complete_ok hrun]
      exact ⟨by simp [install], fun _ => rfl, fun _ => s.replay.isClear_clear,
        fun _ hc => absurd rfl hc⟩
    | error e =>
      rw [complete_error hrun]
      exact resetResults rfl rfl rfl rfl
  · rw [complete_of_not hnow]
    exact h

/-- **Every act keeps a session well.** -/
theorem act (h : s.WellKept) (resolver : Resolver) (a : Act) : (s.act resolver a).WellKept := by
  cases a with
  | issue conditions =>
    rw [Session.act]
    cases hi : s.issue conditions with
    | ok running => exact h.issue hi
    | error e => exact h
  | clear => exact h.clear
  | close => exact h.close
  | setOrder order => exact h.withResults rfl id
  | resort => exact h.resort
  | materialize start stop =>
    rw [Session.act]
    cases hm : s.materialize resolver start stop with
    | ok result => exact h.materialize hm
    | error e => exact h
  | answer sequence answer => exact h.complete resolver sequence answer
  | lookups generation items missing => exact h.attachResolved generation items missing
  | plan generation batch isMember => exact h.applyPlan generation _
  | unplanned generation batch => exact h.applyPlan generation _
  | batch events => exact h.handleBatch events
  | silence => exact ⟨h.planning, h.deferred, h.replay, h.empty⟩

end WellKept

/-- **Every session that can occur is well kept.** -/
theorem Reachable.wellKept {s : Session} (h : s.Reachable) : s.WellKept := by
  induction h with
  | fresh settings subscription => exact WellKept.fresh settings subscription
  | act resolver a _ ih => exact ih.act resolver a

end Session

end LiveSearch
