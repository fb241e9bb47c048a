import LiveSearch.Proofs.Reconcile.Buffer
import LiveSearch.Proofs.ResultSet.Presentable
import LiveSearch.Proofs.Session.Staleness
import LiveSearch.Proofs.Session.WellKept

/-!
# The life of a session

A session goes from phase to phase, and a dozen different events can move it. What can be relied on
in every phase is that the session is **coherent** (`Session.Coherent`): beyond being well kept, it
shows presentable hits only, it has an error to report exactly if its query has failed, and once it
is closed it listens to nothing and plans nothing.

Being closed is the end. Since there are no hits any more, nothing that arrives late finds anything
to change, and all that is left to the owner is to choose the order of a sort that has nothing to
sort (`Session.act_closed`). The whole life of a session is put together in `Session.life_of_runs`.
-/

namespace LiveSearch

namespace ReplayBuffer

theorem isEmpty_of_isClear {b : ReplayBuffer} (h : b.IsClear) : b.isEmpty = true := by
  rw [isEmpty, h.1, h.2]
  rfl

end ReplayBuffer

namespace Session

/-- **A coherent session.** -/
structure Coherent (s : Session) : Prop extends WellKept s where
  /-- The hits can be shown. -/
  hits : s.results.Presentable
  /-- There is an error to report exactly if the query has failed. -/
  error : s.error.isSome = true ↔ s.phase = .failed
  /-- A closed session listens to nothing and plans nothing. -/
  closed : s.phase = .closed → s.listener = none ∧ s.planning = none
  /-- The replay buffer is as large as the settings say. -/
  capacity : s.replay.capacity = s.settings.replayCapacity

/-- Where there are no hits a batch is dropped. -/
theorem dispatch_of_hits_nil {s : Session} (h : s.results.hits = []) (batch : List Event) :
    s.dispatch batch = { session := s, update := .reconciled {} } :=
  if_pos (List.isEmpty_iff.mpr h)

namespace Coherent

variable {s t : Session}

theorem hits_of_closed (h : s.Coherent) (hclosed : s.phase = .closed) : s.results.hits = [] :=
  h.empty (by rw [hclosed]; decide) (by rw [hclosed]; decide)

/-- A query that runs has not failed yet. -/
theorem error_of_running (h : s.Coherent) (hrun : s.phase = .running) : s.error = none := by
  rw [← Option.not_isSome_iff_eq_none, h.error, hrun]
  decide

theorem fresh (settings : Settings) (subscription : Nat) :
    Coherent (fresh settings subscription) :=
  ⟨WellKept.fresh settings subscription, ResultSet.presentable_of_hits_nil rfl,
    by simp [Session.fresh], (fun hclosed => by cases hclosed), rfl⟩

/-- Other presentable hits leave a session coherent. -/
theorem withResults {results : ResultSet} (h : s.Coherent)
    (hkept : WellKept { s with results }) (hhits : results.Presentable) :
    Coherent { s with results } :=
  ⟨hkept, hhits, h.error, h.closed, h.capacity⟩

theorem begin (h : s.Coherent) : s.begin.Coherent :=
  ⟨h.toWellKept.begin, h.hits, by simp [Session.begin], (fun hclosed => by cases hclosed),
    h.capacity⟩

theorem clear (h : s.Coherent) : s.clear.Coherent := by
  have hkept := h.toWellKept.clear
  rw [Session.clear] at hkept ⊢
  split at hkept
  · next hclosed =>
    rw [if_pos hclosed]
    exact h
  · next hopen =>
    rw [if_neg hopen]
    exact ⟨hkept, ResultSet.presentable_of_hits_nil rfl, by simp,
      (fun hclosed => by cases hclosed), h.capacity⟩

theorem close (h : s.Coherent) : s.close.Coherent := by
  have hkept := h.toWellKept.close
  rw [Session.close] at hkept ⊢
  split at hkept
  · next hclosed =>
    rw [if_pos hclosed]
    exact h
  · next hopen =>
    rw [if_neg hopen]
    exact ⟨hkept, ResultSet.presentable_of_hits_nil rfl, by simp, fun _ => ⟨rfl, rfl⟩, h.capacity⟩

theorem materialize {resolver : Resolver} {start stop : Nat} {after : Session} {shown : List Hit}
    (h : s.Coherent) (hm : s.materialize resolver start stop = .ok (after, shown)) :
    after.Coherent := by
  have hkept := h.toWellKept.materialize hm
  rw [session_materialize hm] at hkept ⊢
  exact h.withResults hkept (h.hits.materializeRefs resolver _)

theorem attachResolved (h : s.Coherent) (generation : Nat) (items : List Item)
    (missing : List Reference) : (s.attachResolved generation items missing).session.Coherent := by
  have hkept := h.toWellKept.attachResolved generation items missing
  rw [Session.attachResolved] at hkept ⊢
  split at hkept
  · next hnow =>
    rw [if_pos hnow]
    exact h.withResults hkept ((h.hits.attachAll items).removeAll missing)
  · next hnot =>
    rw [if_neg hnot]
    exact h

/-- **An answer**, as hits or as a failure, ends the phase in which a query runs. -/
theorem complete (h : s.Coherent) (resolver : Resolver) (sequence : Nat)
    (answer : Except Failure (List RankedHit)) :
    (s.complete resolver sequence answer).session.Coherent := by
  have hkept := h.toWellKept.complete resolver sequence answer
  by_cases hnow : sequence = s.sequence ∧ s.phase = .running
  · obtain ⟨rfl, hrun⟩ := hnow
    cases answer with
    | ok hits =>
      rw [complete_ok hrun] at hkept ⊢
      refine ⟨hkept, ?_, ?_, (fun hclosed => by cases hclosed), h.capacity⟩
      · exact (ResultSet.presentable_replace s.results hits).replayOver resolver _
      · show s.error.isSome = true ↔ Phase.completed = .failed
        rw [h.error_of_running hrun]
        decide
    | error e =>
      rw [complete_error hrun] at hkept ⊢
      exact ⟨hkept, ResultSet.presentable_of_hits_nil rfl, by simp [fail],
        (fun hclosed => by cases hclosed), h.capacity⟩
  · rw [complete_of_not hnow]
    exact h

theorem applyPlan (h : s.Coherent) (generation : Nat) (batch : List Event)
    (isMember : Reference → Bool) :
    (s.applyPlan generation (.ok (Plan.ofEvents batch isMember))).session.Coherent := by
  have hkept := h.toWellKept.applyPlan generation (.ok (Plan.ofEvents batch isMember))
  by_cases hnow : s.planning = some generation ∧ s.results.generation = generation
  · obtain ⟨hplan, rfl⟩ := hnow
    -- a closed session has no plan to wait for
    have hopen : s.phase ≠ .closed := fun hclosed => by
      rw [(h.closed hclosed).2] at hplan
      cases hplan
    have hhits := h.hits.applyPlan batch isMember
    rw [applyPlan_of_planning hplan, carryOut_ok] at hkept ⊢
    obtain ⟨applied, left, -, -, ⟨-, -, heq⟩ | ⟨first, rest, -, -, heq⟩⟩ := drain_spec s.deferred
      { s with
        results := ((Plan.ofEvents batch isMember).apply s.results).1
        planning := none } ((Plan.ofEvents batch isMember).apply s.results).2 rfl
    · rw [heq] at hkept ⊢
      exact ⟨hkept, hhits.reconcileAll applied, h.error, fun hclosed => absurd hclosed hopen,
        h.capacity⟩
    · rw [heq] at hkept ⊢
      exact ⟨hkept, hhits.reconcileAll applied, h.error, fun hclosed => absurd hclosed hopen,
        h.capacity⟩
  · rw [applyPlan_of_not hnow]
    exact h

theorem remember (h : s.Coherent) (batch : List Event) : (s.remember batch).Coherent := by
  have hkept := h.toWellKept.remember batch
  rw [Session.remember] at hkept ⊢
  split at hkept
  · next hrun =>
    rw [if_pos hrun]
    exact ⟨hkept, h.hits, h.error, h.closed, (s.replay.capacity_extend batch).trans h.capacity⟩
  · next hnot =>
    rw [if_neg hnot]
    exact h

theorem dispatch (h : s.Coherent) (batch : List Event) : (s.dispatch batch).session.Coherent := by
  by_cases hnil : s.results.hits = []
  · rw [dispatch_of_hits_nil hnil]
    exact h
  · have hkept := h.toWellKept.dispatch batch
    have hopen : s.phase ≠ .closed := fun hclosed => hnil (h.hits_of_closed hclosed)
    rcases s.dispatch_cases batch with ⟨-, heq⟩ | ⟨-, heq⟩ | ⟨-, heq⟩ | ⟨-, heq⟩ <;>
      rw [heq] at hkept ⊢
    · exact h
    · exact ⟨hkept, h.hits, h.error, h.closed, h.capacity⟩
    · exact ⟨hkept, h.hits, h.error, fun hclosed => absurd hclosed hopen, h.capacity⟩
    · exact h.withResults hkept (h.hits.reconcile batch)

/-- **Every act keeps a session coherent.** -/
theorem act (h : s.Coherent) (resolver : Resolver) (a : Act) : (s.act resolver a).Coherent := by
  cases a with
  | issue conditions =>
    rw [Session.act]
    cases hi : s.issue conditions with
    | ok running =>
      rw [(issue_ok hi).2.2]
      exact h.begin
    | error e => exact h
  | clear => exact h.clear
  | close => exact h.close
  | setOrder order => exact h.withResults (h.toWellKept.withResults rfl id) h.hits
  | resort => exact h.withResults h.toWellKept.resort h.hits.resort
  | materialize start stop =>
    rw [Session.act]
    cases hm : s.materialize resolver start stop with
    | ok result => exact h.materialize hm
    | error e => exact h
  | answer sequence answer => exact h.complete resolver sequence answer
  | lookups generation items missing => exact h.attachResolved generation items missing
  | plan generation batch isMember => exact h.applyPlan generation batch isMember
  | unplanned generation batch =>
    rw [Session.act, applyPlan_error]
    exact h.applyPlan generation batch s.results.contains
  | batch events => exact (h.remember events).dispatch events
  | silence =>
    exact ⟨⟨h.planning, h.deferred, h.replay, h.empty⟩, h.hits, h.error,
      fun hclosed => ⟨rfl, (h.closed hclosed).2⟩, h.capacity⟩

end Coherent

/-- **Every session that can occur is coherent.** -/
theorem Reachable.coherent {s : Session} (h : s.Reachable) : s.Coherent := by
  induction h with
  | fresh settings subscription => exact Coherent.fresh settings subscription
  | act resolver a _ ih => exact ih.act resolver a

theorem reachable_runs {s : Session} (h : s.Reachable) (steps : List (Resolver × Act)) :
    (s.runs steps).Reachable := by
  induction steps using List.reverseRecOn with
  | nil => exact h
  | append_singleton steps step ih =>
    rw [runs_snoc]
    exact .act step.1 step.2 ih

/-! ### The end -/

/-- **Nothing happens to a closed session**, but that another order may be chosen. -/
theorem act_closed {s : Session} (h : s.Coherent) (hclosed : s.phase = .closed)
    (resolver : Resolver) (a : Act) : ∃ order, s.act resolver a = s.setOrder order := by
  have hnil := h.hits_of_closed hclosed
  obtain ⟨hdeaf, hplan⟩ := h.closed hclosed
  have hisClosed : s.isClosed = true := decide_eq_true hclosed
  have hnotRunning : s.phase ≠ .running := by
    rw [hclosed]
    decide
  -- all acts but one leave the session as it is
  have hsame : ∀ {t : Session}, t = s → ∃ order, t = s.setOrder order :=
    fun heq => ⟨s.results.order, heq⟩
  cases a with
  | issue conditions =>
    have hrefused : s.issue conditions = .error .sessionClosed := if_pos hisClosed
    refine hsame ?_
    rw [act, hrefused]
  | clear => exact hsame (if_pos hisClosed)
  | close => exact hsame (if_pos hisClosed)
  | setOrder order => exact ⟨order, rfl⟩
  | resort =>
    have hsorted : s.results.resort = s.results := by
      rw [ResultSet.resort, hnil, SortOrder.sort, List.mergeSort_nil, ← hnil]
    refine hsame ?_
    rw [act, resort, hsorted]
  | materialize start stop =>
    have hrefused : s.materialize resolver start stop = .error .sessionClosed := if_pos hisClosed
    refine hsame ?_
    rw [act, hrefused]
  | answer sequence answer =>
    refine hsame ?_
    rw [act, complete_of_not fun hnow => hnotRunning hnow.2]
  | lookups generation items missing =>
    have hnothing : ((attachAll items s.results).1).removeAll missing = s.results := by
      rw [attachAll_fst, hnil, List.map_nil, ResultSet.removeAll, List.filter_nil, ← hnil]
    refine hsame ?_
    rw [act, attachResolved]
    split
    · show { s with results := ((attachAll items s.results).1).removeAll missing } = s
      rw [hnothing]
    · rfl
  | plan generation batch isMember =>
    refine hsame ?_
    rw [act, applyPlan_of_not fun hnow => by simp [hplan] at hnow]
  | unplanned generation batch =>
    refine hsame ?_
    rw [act, applyPlan_of_not fun hnow => by simp [hplan] at hnow]
  | batch events =>
    refine hsame ?_
    rw [act, handleBatch, remember, if_neg hnotRunning, dispatch_of_hits_nil hnil]
  | silence =>
    refine hsame ?_
    rw [act, ← hdeaf]

/-- **A closed session stays what it is** for good, but for the order. -/
theorem runs_closed {s : Session} (h : s.Coherent) (hclosed : s.phase = .closed)
    (steps : List (Resolver × Act)) : ∃ order, s.runs steps = s.setOrder order := by
  induction steps using List.reverseRecOn with
  | nil => exact ⟨s.results.order, rfl⟩
  | append_singleton steps step ih =>
    obtain ⟨order, heq⟩ := ih
    have hnext : (s.setOrder order).Coherent := h.act step.1 (.setOrder order)
    obtain ⟨last, hlast⟩ := act_closed hnext hclosed step.1 step.2
    refine ⟨last, ?_⟩
    rw [runs_snoc, heq, hlast]
    rfl

/-- **The life of a session.** However a session is used, and whatever is delivered to it in
whatever order: all its hits are visible and carry no items but their own; there is an error exactly
if the query has failed; there are hits only while a query runs or when it has been answered; a plan
under way is for the hits that are there, batches wait only for a plan, and events are kept only
while a query runs; a query that is refused changes nothing; and once the session is closed it stays
so, without hits and without an error, and nothing changes but the order chosen for the next
sort. -/
theorem life_of_runs (settings : Settings) (subscription : Nat) (steps : List (Resolver × Act)) :
    let s := (fresh settings subscription).runs steps
    (∀ h ∈ s.results.hits, h.isVisible = true ∧ ∀ v, h.item = some v → v.ref = h.ref) ∧
      (s.error.isSome = true ↔ s.phase = .failed) ∧
      (s.phase = .idle ∨ s.phase = .failed ∨ s.phase = .closed → s.results.hits = []) ∧
      (∀ generation, s.planning = some generation → generation = s.results.generation) ∧
      (s.deferred ≠ [] → s.planning.isSome = true) ∧
      (s.replay.isEmpty = false → s.phase = .running) ∧
      (∀ resolver conditions e, s.issue conditions = .error e →
        s.act resolver (.issue conditions) = s) ∧
      ∀ later, let t := s.close.runs later
        t.phase = .closed ∧ t.error = none ∧ t.sequence = s.close.sequence ∧
          t.results.hits = [] ∧ ∃ order, t = s.close.setOrder order := by
  intro s
  have h : s.Coherent := (reachable_runs (.fresh settings subscription) steps).coherent
  refine ⟨fun x hx => ⟨(h.hits x hx).visible, (h.hits x hx).own⟩, h.error, ?_, h.planning, ?_, ?_,
    ?_, ?_⟩
  · intro hphase
    refine h.empty ?_ ?_
    · rintro hrun
      simp [hrun] at hphase
    · rintro hcompleted
      simp [hcompleted] at hphase
  · intro hwaits
    by_contra hnone
    exact hwaits (h.deferred (by simpa using hnone))
  · intro hheard
    by_contra hnot
    rw [ReplayBuffer.isEmpty_of_isClear (h.replay hnot)] at hheard
    cases hheard
  · intro resolver conditions e herror
    rw [act, herror]
  · intro later t
    have hshut := s.phase_close
    have hclose := h.close
    obtain ⟨order, heq⟩ : ∃ order, t = s.close.setOrder order := runs_closed hclose hshut later
    have herror : s.close.error = none := by
      rw [← Option.not_isSome_iff_eq_none, hclose.error, hshut]
      decide
    rw [heq]
    exact ⟨hshut, herror, rfl, hclose.hits_of_closed hshut, order, rfl⟩

end Session

end LiveSearch
