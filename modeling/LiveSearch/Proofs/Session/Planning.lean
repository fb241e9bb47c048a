import LiveSearch.Proofs.ResultSet.Replace
import LiveSearch.Proofs.Session.WellKept
import Mathlib.Data.List.Induction

/-!
# Planning in the background

A large batch is planned apart from the session, and what arrives in the meantime waits for the
plan. Planning may break off, and then the batch comes back without a plan. None of this can be seen
in the end: **once no plan is under way and nothing waits, the hits are those that applying all
batches on the spot, in the order of their arrival, would have left, and as many have been removed
and refreshed on the way** (`Session.planning_eq_foreground`).

A `Planner` is a session with the plans that are being made for it and with what it has said. The
invariant is an account (`Owes`): what the batches that have arrived make of the hits at the
beginning is what the batches that are planned or wait will make of the hits that are there now.
Every turn adds to what is owed, pays some of it from the front, or finds that there is nothing to
pay it on.
-/

namespace LiveSearch

/-- The outcome that an update reports. -/
def Update.outcome : Update → Outcome
  | .reconciled outcome => outcome
  | _ => {}

namespace Session

/-! ### A session and its plans -/

/-- **A session with the plans that are being made for it.** -/
structure Planner where
  session : Session
  /-- The plans that are being made. -/
  plans : List Work := []
  /-- What the session has said, in order. -/
  updates : List Update := []

/-- What can happen at a planner. -/
inductive Turn where
  /-- A batch arrives. -/
  | arrival (batch : List Event)
  /-- One of the plans is finished and arrives. -/
  | landing (position : Nat)
  /-- The making of a plan breaks off, and its batch comes back. -/
  | breakOff (position : Nat) (reason : String)

/-- The batch that a turn brings. -/
def Turn.batch? : Turn → Option (List Event)
  | .arrival batch => some batch
  | .landing _ | .breakOff .. => none

/-- The batches that some turns bring, in order. -/
def arrivals (turns : List Turn) : List (List Event) :=
  turns.filterMap Turn.batch?

namespace Planner

/-- The planner after the session has reacted to something. -/
def react (p : Planner) (reaction : Reaction) : Planner :=
  { session := reaction.session
    plans := p.plans ++ reaction.work
    updates := p.updates ++ [reaction.update] }

/-- The planner after a turn. -/
def turn (resolver : Resolver) (p : Planner) : Turn → Planner
  | .arrival batch => p.react (p.session.handleBatch batch)
  | .landing position =>
    match p.plans[position]? with
    | some work =>
      { p with plans := p.plans.eraseIdx position }.react
        (p.session.handleMessage resolver (work.finish resolver))
    | none => p
  | .breakOff position reason =>
    match p.plans[position]?.bind (Work.breakOff? reason) with
    | some message =>
      { p with plans := p.plans.eraseIdx position }.react (p.session.handleMessage resolver message)
    | none => p

/-- The planner after some turns. -/
def run (resolver : Resolver) (p : Planner) (turns : List Turn) : Planner :=
  turns.foldl (turn resolver) p

/-- The outcomes of all updates together. -/
def total (p : Planner) : Outcome :=
  p.updates.foldl (fun sum update => sum.add update.outcome) {}

theorem total_react (p : Planner) (reaction : Reaction) :
    (p.react reaction).total = p.total.add reaction.update.outcome := by
  rw [total, react, List.foldl_append]
  rfl

end Planner

/-! ### What is owed -/

/-- **The account of the batches**: applying those that have arrived to the hits at the beginning
gives what applying those that are owed to the present hits gives, on top of the present total. -/
def Owes (arrived : List (List Event)) (start : ResultSet) (owed : List (List Event))
    (rs : ResultSet) (total : Outcome) : Prop :=
  reconcileAll arrived start = ((reconcileAll owed rs).1, total.add (reconcileAll owed rs).2)

namespace Owes

variable {arrived owed : List (List Event)} {start rs : ResultSet} {total : Outcome}

/-- A batch that arrives is owed last. -/
theorem arrive (h : Owes arrived start owed rs total) (batch : List Event) :
    Owes (arrived ++ [batch]) start (owed ++ [batch]) rs total := by
  have hnow : reconcileAll arrived start =
      ((reconcileAll owed rs).1, total.add (reconcileAll owed rs).2) := h
  rw [Owes, reconcileAll_append, reconcileAll_append, hnow, ← Outcome.add_assoc]

/-- The batches that are owed first are paid by applying them. -/
theorem pay (first : List (List Event)) (h : Owes arrived start (first ++ owed) rs total) :
    Owes arrived start owed (reconcileAll first rs).1 (total.add (reconcileAll first rs).2) := by
  rw [Owes, reconcileAll_append, ← Outcome.add_assoc] at h
  exact h

/-- Where there are no hits it does not matter what is owed. -/
theorem of_hits_nil {others : List (List Event)} (h : Owes arrived start owed rs total)
    (hnil : rs.hits = []) : Owes arrived start others rs total := by
  rw [Owes, reconcileAll_of_hits_nil hnil] at h ⊢
  exact h

end Owes

/-- **What holds at every planner.** -/
structure Accounted (arrived : List (List Event)) (start : ResultSet) (p : Planner) : Prop where
  /-- Either nothing is planned and nothing waits, and nothing is owed; or there is one plan, of the
  batch that is owed first and for the hits that are there, and the other batches that are owed
  wait for it. -/
  cases :
    (p.plans = [] ∧ p.session.planning = none ∧ p.session.deferred = [] ∧
      Owes arrived start [] p.session.results p.total) ∨
    ∃ batch, p.plans = [.plan p.session.results.generation batch p.session.results.refs] ∧
      p.session.planning = some p.session.results.generation ∧
      Owes arrived start (batch :: p.session.deferred) p.session.results p.total

namespace Accounted

variable {arrived : List (List Event)} {start : ResultSet} {p : Planner}

/-- A batch that arrives while nothing is planned. -/
theorem arrive_idle {batch : List Event} (hplans : p.plans = [])
    (hplan : p.session.planning = none) (hdef : p.session.deferred = [])
    (howes : Owes arrived start [] p.session.results p.total) :
    Accounted (arrived ++ [batch]) start (p.react (p.session.handleBatch batch)) := by
  have hnext : Owes (arrived ++ [batch]) start [batch] p.session.results p.total :=
    howes.arrive batch
  constructor
  rw [Planner.total_react]
  obtain ⟨replay, hcases⟩ := p.session.handleBatch_cases batch
  rcases hcases with ⟨hnil, heq⟩ | ⟨hsome, -⟩ | ⟨-, heq⟩ | ⟨-, heq⟩
  · rw [heq]
    refine Or.inl ⟨?_, hplan, hdef, hnext.of_hits_nil hnil⟩
    rw [Planner.react, hplans, List.nil_append]
  · rw [hplan] at hsome
    exact absurd hsome (by simp)
  · rw [heq]
    refine Or.inr ⟨batch, ?_, rfl, ?_⟩
    · rw [Planner.react, hplans, List.nil_append]
      rfl
    · show Owes _ _ (batch :: p.session.deferred) _ _
      -- nothing was waiting, so the batch that is planned is all that is owed
      rw [hdef]
      exact hnext
  · rw [heq]
    refine Or.inl ⟨?_, hplan, hdef, hnext.pay [batch]⟩
    rw [Planner.react, hplans, List.nil_append]
    rfl

/-- A batch that arrives during a plan. -/
theorem arrive_planning {batch first : List Event}
    (hplans : p.plans = [.plan p.session.results.generation first p.session.results.refs])
    (hplan : p.session.planning = some p.session.results.generation)
    (howes : Owes arrived start (first :: p.session.deferred) p.session.results p.total) :
    Accounted (arrived ++ [batch]) start (p.react (p.session.handleBatch batch)) := by
  have hnext := howes.arrive batch
  constructor
  rw [Planner.total_react]
  obtain ⟨replay, hcases⟩ := p.session.handleBatch_cases batch
  rcases hcases with ⟨hnil, heq⟩ | ⟨-, heq⟩ | ⟨hnone, -⟩ | ⟨hnone, -⟩
  · rw [heq]
    refine Or.inr ⟨first, ?_, hplan, hnext.of_hits_nil hnil⟩
    rw [Planner.react, hplans, List.append_nil]
  · rw [heq]
    refine Or.inr ⟨first, ?_, hplan, hnext⟩
    rw [Planner.react, hplans]
    rfl
  · rw [hplan] at hnone
    exact absurd hnone (by simp)
  · rw [hplan] at hnone
    exact absurd hnone (by simp)

/-- The plan arrives, or its batch without one: the batch is paid, and so are those after it until
one has to be planned. -/
theorem land {first : List Event} {plan : Except (List Event) Plan}
    (hplan : p.session.planning = some p.session.results.generation)
    (hcarried : carryOut plan p.session.results = reconcile first p.session.results)
    (howes : Owes arrived start (first :: p.session.deferred) p.session.results p.total) :
    Accounted arrived start
      ({ p with plans := [] }.react
        (p.session.applyPlan p.session.results.generation plan)) := by
  constructor
  rw [Planner.total_react, applyPlan_of_planning hplan, hcarried]
  obtain ⟨applied, left, hsplit, hupdate, hleft⟩ := drain_spec p.session.deferred
    { p.session with results := (reconcile first p.session.results).1, planning := none }
    (reconcile first p.session.results).2 rfl
  have hpaid : Owes arrived start left (reconcileAll (first :: applied) p.session.results).1
      (p.total.add (reconcileAll (first :: applied) p.session.results).2) := by
    rw [hsplit] at howes
    exact Owes.pay (first :: applied) howes
  rw [hupdate]
  rcases hleft with ⟨rfl, hwork, heq⟩ | ⟨batch, rest, rfl, hwork, heq⟩
  · refine Or.inl ⟨?_, ?_, ?_, ?_⟩ <;> simp only [Planner.react, heq]
    · exact hwork
    · exact hpaid
  · refine Or.inr ⟨batch, ?_, ?_, ?_⟩ <;> simp only [Planner.react, heq]
    · rw [hwork, generation_reconcileAll]
      rfl
    · rw [generation_reconcileAll]
    · exact hpaid

/-- Work that can be taken is the only plan there is, of the batch that is owed first. -/
theorem only_plan (h : Accounted arrived start p) {position : Nat} {work : Work}
    (hwork : p.plans[position]? = some work) :
    ∃ first, work = .plan p.session.results.generation first p.session.results.refs ∧
      p.plans.eraseIdx position = [] ∧
      p.session.planning = some p.session.results.generation ∧
      Owes arrived start (first :: p.session.deferred) p.session.results p.total := by
  rcases h.cases with ⟨hplans, -⟩ | ⟨first, hplans, hplan, howes⟩
  · rw [hplans] at hwork
    exact absurd hwork (by simp)
  · rw [hplans, List.getElem?_singleton] at hwork
    split at hwork
    · next hzero =>
      refine ⟨first, (Option.some.inj hwork).symm, ?_, hplan, howes⟩
      rw [hplans, hzero]
      rfl
    · exact absurd hwork (by simp)

/-- **Every turn keeps the account.** -/
theorem turn (h : Accounted arrived start p) (resolver : Resolver) (t : Turn) :
    Accounted (arrived ++ t.batch?.toList) start (p.turn resolver t) := by
  cases t with
  | arrival batch =>
    rcases h.cases with ⟨hplans, hplan, hdef, howes⟩ | ⟨first, hplans, hplan, howes⟩
    · exact arrive_idle hplans hplan hdef howes
    · exact arrive_planning hplans hplan howes
  | landing position =>
    rw [Turn.batch?, Option.toList_none, List.append_nil, Planner.turn]
    cases hwork : p.plans[position]? with
    | none => exact h
    | some work =>
      obtain ⟨first, rfl, herase, hplan, howes⟩ := h.only_plan hwork
      simp only [herase]
      -- the plan was made for the hits that are there
      refine land hplan ?_ howes
      show (Plan.ofEvents first fun ref => decide (ref ∈ p.session.results.refs)).apply
        p.session.results = _
      rw [reconcile, ResultSet.contains_eq_decide_mem_refs]
  | breakOff position reason =>
    rw [Turn.batch?, Option.toList_none, List.append_nil, Planner.turn]
    cases hwork : p.plans[position]? with
    | none => exact h
    | some work =>
      obtain ⟨first, rfl, herase, hplan, howes⟩ := h.only_plan hwork
      simp only [herase]
      exact land hplan rfl howes

/-- The account of a whole run. -/
theorem run (resolver : Resolver) {s : Session} (hplan : s.planning = none)
    (hdef : s.deferred = []) (turns : List Turn) :
    Accounted (arrivals turns) s.results (Planner.run resolver { session := s } turns) := by
  induction turns using List.reverseRecOn with
  | nil => exact ⟨Or.inl ⟨rfl, hplan, hdef, rfl⟩⟩
  | append_singleton turns t ih =>
    have hsnoc : arrivals (turns ++ [t]) = arrivals turns ++ t.batch?.toList := by
      rw [arrivals, List.filterMap_append, arrivals]
      cases t <;> rfl
    rw [hsnoc, Planner.run, List.foldl_append]
    exact ih.turn resolver t

end Accounted

/-- **Planning in the background cannot be told from applying every batch on the spot.** From any
session that can occur and has no plan under way, whatever its threshold, let batches arrive and
let the plans that are made of them land or break off, in any order. Whenever no plan is under way
and no batch waits, the hits, their order and their generation are what the batches in the order of
their arrival make of the first hits, and the updates report, all together, what those batches have
removed and refreshed. -/
theorem planning_eq_foreground (resolver : Resolver) (s : Session) (turns : List Turn)
    (hs : s.Reachable) (hplan : s.planning = none)
    (hquiet : (Planner.run resolver { session := s } turns).session.planning = none ∧
      (Planner.run resolver { session := s } turns).session.deferred = []) :
    ((Planner.run resolver { session := s } turns).session.results,
      (Planner.run resolver { session := s } turns).total) =
        reconcileAll (arrivals turns) s.results := by
  have h := Accounted.run resolver hplan (hs.wellKept.deferred hplan) turns
  rcases h.cases with ⟨-, -, -, howes⟩ | ⟨first, -, hsome, -⟩
  · exact howes.symm
  · rw [hquiet.1] at hsome
    exact absurd hsome (by simp)

/-! ### A session that plans -/

/-- **A first query is answered** with one hit, and nothing was heard while it ran. -/
theorem session_install_singleton (resolver : Resolver) (settings : Settings) (subscription : Nat)
    (hit : RankedHit) (hv : hit.state.isVisible = true) :
    ((fresh settings subscription).begin.install resolver [hit]).session =
      { fresh settings subscription with
        results := { hits := Hit.classify [hit], generation := 1 }
        sequence := 1
        phase := .completed } := by
  have hreplace : ({} : ResultSet).replace (Hit.classify [hit]) =
      { hits := Hit.classify [hit], generation := 1 } :=
    ResultSet.replace_singleton (h := Hit.ofRanked _ hit) hv {}
  simp only [install, replayOver, fresh, begin, ReplayBuffer.clear, ReplayBuffer.take,
    reconcile_nil, recheck_nil, hreplace]

/-- A session that has asked for what arrived after the beginning of 1970, and has been answered
with one hit. -/
def showing (settings : Settings) (hit : RankedHit) : Session :=
  ((fresh settings 0).act (fun ref => .error (Store.missing ref))
    (.issue [{ field := .received, specifier := .isAfter, value := .date 0 }])).act
      (fun ref => .error (Store.missing ref)) (.answer 1 (.ok [hit]))

theorem reachable_showing (settings : Settings) (hit : RankedHit) :
    (showing settings hit).Reachable :=
  ((Reachable.fresh settings 0).act _ _).act _ _

theorem showing_eq (settings : Settings) (hit : RankedHit) (hv : hit.state.isVisible = true) :
    showing settings hit =
      { fresh settings 0 with
        results := { hits := Hit.classify [hit], generation := 1 }
        sequence := 1
        phase := .completed } :=
  session_install_singleton (fun ref => .error (Store.missing ref)) settings 0 hit hv

/-- An unread hit under the reference one. -/
def unreadHit : RankedHit :=
  { ref := ⟨1⟩, score := Single.zero, state := .unread, attributes := {} }

/-- A batch of two is planned, and the batch that removes the hit has to wait until the plan lands
or breaks off. -/
theorem planning_eq_foreground_of_deferral :
    let s := showing { backgroundScanThreshold := 2 } unreadHit
    ∀ last ∈ [.landing 0, .breakOff 0 "task was cancelled"],
      let turns := [.arrival [Event.deleted ⟨2⟩, Event.deleted ⟨3⟩],
        .arrival [Event.deleted ⟨1⟩], last]
      let p := Planner.run (fun ref => .error (Store.missing ref)) { session := s } turns
      (s.Reachable ∧ s.planning = none ∧ p.session.planning = none ∧ p.session.deferred = []) ∧
        p.updates = [.planning 2, .deferred 1, .reconciled { removed := 1 }] ∧
        (p.session.results, p.total) = reconcileAll (arrivals turns) s.results := by
  intro s last hlast turns p
  have hs : s.Reachable := reachable_showing _ _
  have heq : s = _ := showing_eq { backgroundScanThreshold := 2 } unreadHit rfl
  have hplan : s.planning = none := by
    rw [heq]
    rfl
  have hquiet : p.session.planning = none ∧ p.session.deferred = [] := by
    show (Planner.run _ { session := s } turns).session.planning = none ∧
      (Planner.run _ { session := s } turns).session.deferred = []
    rw [heq]
    rcases List.mem_pair.mp hlast with rfl | rfl <;> exact ⟨rfl, rfl⟩
  refine ⟨⟨hs, hplan, hquiet⟩, ?_, planning_eq_foreground _ s turns hs hplan hquiet⟩
  show (Planner.run _ { session := s } turns).updates = _
  rw [heq]
  rcases List.mem_pair.mp hlast with rfl | rfl <;> rfl

end Session

end LiveSearch
