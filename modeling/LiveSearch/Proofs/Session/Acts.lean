import LiveSearch.Proofs.Reconcile.Batches
import LiveSearch.Proofs.ResultSet.Lookup
import LiveSearch.Proofs.ResultSet.Replace
import LiveSearch.Session.Materialize

/-!
# What can be done to a session

A session changes by what its owner does with it and by what is delivered to it. An `Session.Act` is
one such event; every session that can occur is reached from a fresh one by a list of them
(`Session.Reachable`). Nothing is assumed of the order, of the resolver, or of what is delivered,
except that a plan is the plan of some batch.

The first part of the file says once what the functions that let batches through can do
(`Session.dispatch_cases`, `Session.drain_spec`), so that no later argument has to open them.
-/

namespace LiveSearch

namespace Session

/-! ### Letting batches through -/

/-- What becomes of a batch: without hits it is dropped, during a plan it waits, a large one is
planned and every other is applied at once. -/
theorem dispatch_cases (s : Session) (batch : List Event) :
    (s.results.hits = [] ∧ s.dispatch batch = { session := s, update := .reconciled {} }) ∨
      (s.planning.isSome = true ∧ s.dispatch batch = s.defer batch) ∨
      (s.planning = none ∧ s.dispatch batch = s.startPlan batch) ∨
      (s.planning = none ∧ s.dispatch batch = s.reconcileNow batch) := by
  rw [dispatch]
  by_cases hempty : s.results.isEmpty
  · exact Or.inl ⟨List.isEmpty_iff.mp hempty, if_pos hempty⟩
  rw [if_neg hempty]
  by_cases hplan : s.planning.isSome
  · exact Or.inr (Or.inl ⟨hplan, if_pos hplan⟩)
  have hnone : s.planning = none := by simpa using hplan
  rw [if_neg hplan]
  by_cases hlarge : s.plansInBackground batch.length
  · exact Or.inr (Or.inr (Or.inl ⟨hnone, if_pos hlarge⟩))
  · exact Or.inr (Or.inr (Or.inr ⟨hnone, if_neg hlarge⟩))

/-- What becomes of a batch that arrives: it is kept for a query that runs, and then it is dropped,
waits, is planned or is applied. -/
theorem handleBatch_cases (s : Session) (batch : List Event) :
    ∃ replay, let t := { s with replay }
      (s.results.hits = [] ∧
          s.handleBatch batch = { session := t, update := .reconciled {} }) ∨
        (s.planning.isSome = true ∧ s.handleBatch batch = t.defer batch) ∨
        (s.planning = none ∧ s.handleBatch batch = t.startPlan batch) ∨
        (s.planning = none ∧ s.handleBatch batch = t.reconcileNow batch) := by
  obtain ⟨replay, hkept⟩ : ∃ replay, s.remember batch = { s with replay } := by
    rw [remember]
    split
    · exact ⟨_, rfl⟩
    · exact ⟨s.replay, rfl⟩
  refine ⟨replay, ?_⟩
  rw [handleBatch, hkept]
  exact dispatch_cases { s with replay } batch

/-- **What giving the waiting batches their turn comes to.** A first part of them is applied, and
counted; what is left, if anything, begins with a batch that is now being planned, and the others
wait for it. -/
theorem drain_spec (batches : List (List Event)) (s : Session) (total : Outcome)
    (hplan : s.planning = none) :
    ∃ applied left, batches = applied ++ left ∧
      (drain batches s total).update =
        .reconciled (total.add (reconcileAll applied s.results).2) ∧
      ((left = [] ∧ (drain batches s total).work = [] ∧
          (drain batches s total).session =
            { s with results := (reconcileAll applied s.results).1, deferred := [] }) ∨
        ∃ batch rest, left = batch :: rest ∧
          (drain batches s total).work =
            [.plan s.results.generation batch (reconcileAll applied s.results).1.refs] ∧
          (drain batches s total).session =
            { s with
              results := (reconcileAll applied s.results).1
              planning := some s.results.generation
              deferred := rest }) := by
  induction batches generalizing s total with
  | nil => exact ⟨[], [], rfl, rfl, Or.inl ⟨rfl, rfl, rfl⟩⟩
  | cons batch rest ih =>
    rw [drain]
    rcases dispatch_cases { s with deferred := rest } batch with
      ⟨hempty, heq⟩ | ⟨hsome, -⟩ | ⟨-, heq⟩ | ⟨-, heq⟩
    -- there are no hits: the batch is dropped, which is what applying it would do
    · obtain ⟨applied, left, hsplit, hupdate, hleft⟩ := ih { s with deferred := rest }
        (total.add {}) hplan
      have hsame : reconcile batch s.results = (s.results, {}) := reconcile_of_hits_nil hempty
      refine ⟨batch :: applied, left, by rw [hsplit]; rfl, ?_, ?_⟩
      · rw [heq, reconcileAll_cons, hsame, Outcome.empty_add]
        exact hupdate
      · rw [heq, reconcileAll_cons, hsame]
        exact hleft
    · exact absurd hsome (by simp [hplan])
    · rw [heq]
      exact ⟨[], batch :: rest, rfl, rfl, Or.inr ⟨batch, rest, rfl, rfl, rfl⟩⟩
    -- the batch is applied, and the rest is up to the induction
    · obtain ⟨applied, left, hsplit, hupdate, hleft⟩ := ih
        { s with deferred := rest, results := (reconcile batch s.results).1 }
        (total.add (reconcile batch s.results).2) hplan
      refine ⟨batch :: applied, left, by rw [hsplit]; rfl, ?_, ?_⟩
      · rw [heq, reconcileAll_cons, ← Outcome.add_assoc]
        exact hupdate
      · rw [heq, reconcileAll_cons]
        simp only [generation_reconcile] at hleft
        exact hleft

/-- A plan that is not the one waited for changes nothing. -/
theorem applyPlan_of_not {s : Session} {generation : Nat} {p : Except (List Event) Plan}
    (h : ¬(s.planning = some generation ∧ s.results.generation = generation)) :
    s.applyPlan generation p = { session := s, update := .outdated } := by
  rw [applyPlan, if_neg h]

/-- The plan waited for is carried out, and then the waiting batches have their turn. -/
theorem applyPlan_of_planning {s : Session} {p : Except (List Event) Plan}
    (h : s.planning = some s.results.generation) :
    s.applyPlan s.results.generation p =
      drain s.deferred { s with results := (carryOut p s.results).1, planning := none }
        (carryOut p s.results).2 := by
  rw [applyPlan, if_pos ⟨h, rfl⟩]

@[simp] theorem carryOut_ok (plan : Plan) (rs : ResultSet) :
    carryOut (.ok plan) rs = plan.apply rs := rfl

/-- What is carried out is a plan, if need be one that is made on the spot. -/
theorem exists_carryOut (p : Except (List Event) Plan) (rs : ResultSet) :
    ∃ plan : Plan, carryOut p rs = plan.apply rs := by
  cases p with
  | ok plan => exact ⟨plan, rfl⟩
  | error batch => exact ⟨Plan.ofEvents batch rs.contains, rfl⟩

/-- **A batch that comes without a plan** is dealt with as if it had been planned for the hits that
are there. -/
theorem applyPlan_error (s : Session) (generation : Nat) (batch : List Event) :
    s.applyPlan generation (.error batch) =
      s.applyPlan generation (.ok (Plan.ofEvents batch s.results.contains)) := rfl

/-! ### What is none of the queries' business -/

/-- **The session goes on with its query** and with its generation of hits, under the same
subscription, and what it has heard while the query runs is the same. -/
structure GoesOn (s t : Session) : Prop where
  listener : t.listener = s.listener
  sequence : t.sequence = s.sequence
  phase : t.phase = s.phase
  replay : t.replay = s.replay
  generation : t.results.generation = s.results.generation

/-- Letting a batch through is none of the queries' business. -/
theorem goesOn_dispatch (s : Session) (batch : List Event) :
    s.GoesOn (s.dispatch batch).session := by
  rcases s.dispatch_cases batch with ⟨-, heq⟩ | ⟨-, heq⟩ | ⟨-, heq⟩ | ⟨-, heq⟩ <;> rw [heq]
  · exact ⟨rfl, rfl, rfl, rfl, rfl⟩
  · exact ⟨rfl, rfl, rfl, rfl, rfl⟩
  · exact ⟨rfl, rfl, rfl, rfl, rfl⟩
  · exact ⟨rfl, rfl, rfl, rfl, generation_reconcile batch s.results⟩

theorem goesOn_applyPlan (s : Session) (generation : Nat) (p : Except (List Event) Plan) :
    s.GoesOn (s.applyPlan generation p).session := by
  by_cases hnow : s.planning = some generation ∧ s.results.generation = generation
  · obtain ⟨hplan, rfl⟩ := hnow
    obtain ⟨plan, hcarried⟩ := exists_carryOut p s.results
    have hgeneration : ∀ batches,
        (LiveSearch.reconcileAll batches (plan.apply s.results).1).1.generation =
          s.results.generation := by
      intro batches
      rw [generation_reconcileAll, Plan.apply_fst]
    rw [applyPlan_of_planning hplan, hcarried]
    obtain ⟨applied, left, -, -, ⟨-, -, heq⟩ | ⟨batch, rest, -, -, heq⟩⟩ := drain_spec s.deferred
      { s with results := (plan.apply s.results).1, planning := none }
      (plan.apply s.results).2 rfl <;>
      rw [heq] <;> exact ⟨rfl, rfl, rfl, rfl, hgeneration applied⟩
  · rw [applyPlan_of_not hnow]
    exact ⟨rfl, rfl, rfl, rfl, rfl⟩

theorem goesOn_attachResolved (s : Session) (generation : Nat) (items : List Item)
    (missing : List Reference) : s.GoesOn (s.attachResolved generation items missing).session := by
  rw [attachResolved]
  split
  · refine ⟨rfl, rfl, rfl, rfl, ?_⟩
    show (((attachAll items s.results).1).removeAll missing).generation = _
    rw [attachAll_fst]
    rfl
  · exact ⟨rfl, rfl, rfl, rfl, rfl⟩

theorem replay_remember {s : Session} (hrun : s.phase = .running) (batch : List Event) :
    (s.remember batch).replay = s.replay.extend batch := by
  rw [remember, if_pos hrun]

/-- A batch that arrives is kept for the query that runs, and goes on to the hits. -/
theorem sequence_handleBatch (s : Session) (batch : List Event) :
    (s.handleBatch batch).session.listener = s.listener ∧
      (s.handleBatch batch).session.sequence = s.sequence ∧
      (s.handleBatch batch).session.phase = s.phase ∧
      (s.handleBatch batch).session.results.generation = s.results.generation := by
  obtain ⟨replay, hcases⟩ := s.handleBatch_cases batch
  rcases hcases with ⟨-, heq⟩ | ⟨-, heq⟩ | ⟨-, heq⟩ | ⟨-, heq⟩ <;> rw [heq]
  · exact ⟨rfl, rfl, rfl, rfl⟩
  · exact ⟨rfl, rfl, rfl, rfl⟩
  · exact ⟨rfl, rfl, rfl, rfl⟩
  · exact ⟨rfl, rfl, rfl, generation_reconcile batch s.results⟩

/-! ### Answers and lookups -/

/-- Where nothing had to give way nothing is looked up again. -/
theorem recheck_nil (resolver : Resolver) (rs : ResultSet) : recheck [] resolver rs = (rs, {}) :=
  reconcile_nil rs

theorem generation_replayOver (resolver : Resolver) (replay : Replay) (rs : ResultSet) :
    (replayOver resolver replay rs).1.generation = rs.generation :=
  (generation_reconcile _ _).trans (generation_reconcile _ _)

/-- An answer that is not waited for changes nothing. -/
theorem complete_of_not {s : Session} {sequence : Nat}
    (h : ¬(sequence = s.sequence ∧ s.phase = .running)) (resolver : Resolver)
    (answer : Except Failure (List RankedHit)) :
    s.complete resolver sequence answer = { session := s, update := .stale sequence } :=
  if_neg h

/-- The answer waited for is installed. -/
theorem complete_ok {s : Session} (h : s.phase = .running) (resolver : Resolver)
    (hits : List RankedHit) :
    s.complete resolver s.sequence (.ok hits) = s.install resolver hits :=
  if_pos ⟨rfl, h⟩

/-- The failure waited for is reported. -/
theorem complete_error {s : Session} (h : s.phase = .running) (resolver : Resolver)
    (e : Failure) : s.complete resolver s.sequence (.error e) = s.fail e :=
  if_pos ⟨rfl, h⟩

/-- Materializing, if it succeeds, changes nothing but the hits. -/
theorem session_materialize {s after : Session} {resolver : Resolver} {start stop : Nat}
    {shown : List Hit} (h : s.materialize resolver start stop = .ok (after, shown)) :
    after = { s with
      results := materializeRefs resolver (refsOfRange s.results start stop) s.results } := by
  rw [materialize] at h
  split at h
  · simp at h
  · exact (congrArg Prod.fst (Except.ok.inj h)).symm

/-- A query that begins is the next one of a session that is not closed. -/
theorem issue_ok {s running : Session} {conditions : List Condition}
    (h : s.issue conditions = .ok running) :
    s.isClosed = false ∧ validateConditions conditions = .ok () ∧ running = s.begin := by
  rw [issue] at h
  split at h
  · simp at h
  · next hopen =>
    split at h
    · next hvalid => exact ⟨by simpa using hopen, hvalid, (Except.ok.inj h).symm⟩
    · simp at h

/-- A query with valid conditions begins, unless the session is closed. -/
theorem issue_of_valid {s : Session} {conditions : List Condition} (hopen : s.isClosed = false)
    (hvalid : validateConditions conditions = .ok ()) : s.issue conditions = .ok s.begin := by
  rw [issue, if_neg (by simp [hopen]), hvalid]

/-! ### A session only goes on -/

/-- **What comes later**: no number of a query is taken back, no generation of hits returns, and a
session is closed only together with a generation. -/
structure Follows (s t : Session) : Prop where
  sequence : s.sequence ≤ t.sequence
  generation : s.results.generation ≤ t.results.generation
  isOpen : s.phase ≠ .closed → t.results.generation = s.results.generation → t.phase ≠ .closed

theorem Follows.refl (s : Session) : s.Follows s :=
  ⟨Nat.le_refl _, Nat.le_refl _, fun hopen _ => hopen⟩

theorem GoesOn.follows {s t : Session} (h : s.GoesOn t) : s.Follows t :=
  ⟨Nat.le_of_eq h.sequence.symm, Nat.le_of_eq h.generation.symm,
    fun hopen _ => by rw [h.phase]; exact hopen⟩

/-- The hits go, or others come in their place. -/
theorem follows_of_next {s t : Session} (hs : s.sequence ≤ t.sequence)
    (hg : t.results.generation = s.results.generation + 1) : s.Follows t :=
  ⟨hs, by omega, fun _ hsame => by omega⟩

theorem follows_begin (s : Session) : s.Follows s.begin :=
  ⟨Nat.le_succ _, Nat.le_refl _, fun _ _ => by simp [begin]⟩

theorem follows_clear (s : Session) : s.Follows s.clear := by
  rw [clear]
  split
  · exact Follows.refl s
  · exact follows_of_next (Nat.le_succ _) rfl

theorem follows_close (s : Session) : s.Follows s.close := by
  rw [close]
  split
  · exact Follows.refl s
  · exact follows_of_next (Nat.le_succ _) rfl

theorem phase_close (s : Session) : s.close.phase = .closed := by
  rw [close]
  split
  · next hclosed => exact of_decide_eq_true hclosed
  · rfl

theorem follows_handleBatch (s : Session) (batch : List Event) :
    s.Follows (s.handleBatch batch).session := by
  obtain ⟨-, hs, hp, hg⟩ := s.sequence_handleBatch batch
  exact ⟨Nat.le_of_eq hs.symm, Nat.le_of_eq hg.symm, fun hopen _ => by rw [hp]; exact hopen⟩

theorem generation_install (resolver : Resolver) (s : Session) (hits : List RankedHit) :
    (s.install resolver hits).session.results.generation = s.results.generation + 1 := by
  show (replayOver resolver s.replay.take.1 _).1.generation = _
  rw [generation_replayOver, ResultSet.generation_replace]

/-- An answer that counts ends the generation of the hits. -/
theorem generation_complete {s : Session} (h : s.phase = .running) (resolver : Resolver)
    (answer : Except Failure (List RankedHit)) :
    (s.complete resolver s.sequence answer).session.results.generation =
      s.results.generation + 1 := by
  cases answer with
  | ok hits =>
    rw [complete_ok h]
    exact generation_install resolver s hits
  | error e =>
    rw [complete_error h]
    rfl

theorem follows_complete (resolver : Resolver) (s : Session) (sequence : Nat)
    (answer : Except Failure (List RankedHit)) :
    s.Follows (s.complete resolver sequence answer).session := by
  by_cases hnow : sequence = s.sequence ∧ s.phase = .running
  · obtain ⟨rfl, hrun⟩ := hnow
    refine follows_of_next ?_ (generation_complete hrun resolver answer)
    cases answer with
    | ok hits => rw [complete_ok hrun]; exact Nat.le_refl _
    | error e => rw [complete_error hrun]; exact Nat.le_refl _
  · rw [complete_of_not hnow]
    exact Follows.refl s

theorem follows_materialize {s after : Session} {resolver : Resolver} {start stop : Nat}
    {shown : List Hit} (h : s.materialize resolver start stop = .ok (after, shown)) :
    s.Follows after := by
  rw [session_materialize h]
  refine GoesOn.follows ⟨rfl, rfl, rfl, rfl, ?_⟩
  rw [materializeRefs, attachAll_fst]
  rfl

/-- **A message only leads on.** -/
theorem follows_handleMessage (resolver : Resolver) (s : Session) (message : Message) :
    s.Follows (s.handleMessage resolver message).session := by
  cases message with
  | answered sequence answer => exact s.follows_complete resolver sequence answer
  | resolved generation items missing =>
    exact (s.goesOn_attachResolved generation items missing).follows
  | planned generation plan => exact (s.goesOn_applyPlan generation plan).follows

/-! ### Acts -/

/-- What can happen to a session. -/
inductive Act where
  /-- A query is to begin. -/
  | issue (conditions : List Condition)
  /-- The hits are dropped and the query is given up. -/
  | clear
  /-- The session is closed. -/
  | close
  /-- Another order is chosen. -/
  | setOrder (order : SortOrder)
  /-- The hits are sorted. -/
  | resort
  /-- The hits of a range are shown with their items. -/
  | materialize (start stop : Nat)
  /-- The answer to a query is delivered. -/
  | answer (sequence : Nat) (answer : Except Failure (List RankedHit))
  /-- Looked-up items are delivered. -/
  | lookups (generation : Nat) (items : List Item) (missing : List Reference)
  /-- The plan of a batch against some membership is delivered. -/
  | plan (generation : Nat) (batch : List Event) (isMember : Reference → Bool)
  /-- A batch comes back without a plan. -/
  | unplanned (generation : Nat) (batch : List Event)
  /-- A batch of events is delivered. -/
  | batch (events : List Event)
  /-- The session notices that its bus is gone. -/
  | silence

/-- **The session after an act.** What fails changes nothing. -/
def act (resolver : Resolver) (s : Session) : Act → Session
  | .issue conditions =>
    match s.issue conditions with
    | .ok running => running
    | .error _ => s
  | .clear => s.clear
  | .close => s.close
  | .setOrder order => s.setOrder order
  | .resort => s.resort
  | .materialize start stop =>
    match s.materialize resolver start stop with
    | .ok (after, _) => after
    | .error _ => s
  | .answer sequence answer => (s.complete resolver sequence answer).session
  | .lookups generation items missing => (s.attachResolved generation items missing).session
  | .plan generation batch isMember =>
    (s.applyPlan generation (.ok (Plan.ofEvents batch isMember))).session
  | .unplanned generation batch => (s.applyPlan generation (.error batch)).session
  | .batch events => (s.handleBatch events).session
  | .silence => { s with listener := none }

/-- **The sessions that can occur.** -/
inductive Reachable : Session → Prop where
  /-- A new session can occur. -/
  | fresh (settings : Settings) (subscription : Nat) : Reachable (fresh settings subscription)
  /-- Anything can happen to a session that can occur. -/
  | act (resolver : Resolver) {s : Session} (a : Act) : Reachable s → Reachable (act resolver s a)

end Session

end LiveSearch
