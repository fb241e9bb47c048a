import LiveSearch.Proofs.Reconcile.Buffer
import LiveSearch.Proofs.Session.Acts

/-!
# Batches that arrive one after the other

What a list of batches does to a session (`Session.handleAll`), said at the two times that matter.

* While a query runs, the batches may do what they like to the old hits: the answer puts others in
  their place. All that counts is that the replay buffer has heard of their events, and this is said
  of the answer itself (`Session.complete_handleAll`).
* When no batch is planned in the background, each is applied as it arrives
  (`Session.handleAll_foreground`).
-/

namespace LiveSearch

namespace Session

/-- **The session after some batches have arrived**, one after the other. -/
def handleAll (s : Session) (batches : List (List Event)) : Session :=
  batches.foldl (fun s batch => (s.handleBatch batch).session) s

theorem handleAll_cons (s : Session) (batch : List Event) (rest : List (List Event)) :
    s.handleAll (batch :: rest) = (s.handleBatch batch).session.handleAll rest := rfl

/-! ### While a query runs -/

/-- Letting a batch through changes the hits, and what is planned and what waits. -/
theorem session_dispatch (s : Session) (batch : List Event) :
    ∃ hits planning deferred, (s.dispatch batch).session =
      { s with results := { s.results with hits }, planning, deferred } := by
  rcases s.dispatch_cases batch with ⟨-, heq⟩ | ⟨-, heq⟩ | ⟨-, heq⟩ | ⟨-, heq⟩
  · exact ⟨s.results.hits, s.planning, s.deferred, by rw [heq]⟩
  · exact ⟨s.results.hits, s.planning, s.deferred ++ [batch], by rw [heq, defer]⟩
  · exact ⟨s.results.hits, some s.results.generation, s.deferred, by rw [heq, startPlan]⟩
  · refine ⟨s.results.hits.filterMap (Hit.after batch), s.planning, s.deferred, ?_⟩
    rw [heq, ← reconcile_fst]
    rfl

/-- **Batches that arrive while a query runs** are heard by the replay buffer. -/
theorem handleAll_running {s : Session} (hrun : s.phase = .running) (batches : List (List Event)) :
    ∃ hits planning deferred, s.handleAll batches =
      { s with
        results := { s.results with hits }
        planning
        deferred
        replay := s.replay.extend batches.flatten } := by
  induction batches generalizing s with
  | nil => exact ⟨s.results.hits, s.planning, s.deferred, rfl⟩
  | cons batch rest ih =>
    have hheard : s.remember batch = { s with replay := s.replay.extend batch } := by
      rw [remember, if_pos hrun]
    obtain ⟨hits, planning, deferred, heq⟩ := (s.remember batch).session_dispatch batch
    rw [hheard] at heq
    have hfirst : (s.handleBatch batch).session =
        { s with
          results := { s.results with hits }
          planning
          deferred
          replay := s.replay.extend batch } := by
      rw [handleBatch, hheard]
      exact heq
    obtain ⟨hits', planning', deferred', hrest⟩ :=
      ih (s := (s.handleBatch batch).session) (by rw [hfirst]; exact hrun)
    refine ⟨hits', planning', deferred', ?_⟩
    rw [handleAll_cons, hrest, hfirst, List.flatten_cons, ReplayBuffer.extend_append]

/-- **An answer that arrives behind some batches.** What is left of them is what the replay buffer
has heard, and it is replayed over the hits of the answer. -/
theorem complete_handleAll {s : Session} (hrun : s.phase = .running) (resolver : Resolver)
    (batches : List (List Event)) (hits : List RankedHit) :
    let buffer := s.replay.extend batches.flatten
    let replayed := replayOver resolver buffer.take.1 (s.results.replace (Hit.classify hits))
    let reaction := (s.handleAll batches).complete resolver s.sequence (.ok hits)
    reaction.session =
        { s with
          results := replayed.1
          phase := .completed
          replay := buffer.clear
          deferred := []
          planning := none } ∧
      reaction.update = .completed s.sequence replayed.1.size replayed.2 := by
  intro buffer replayed reaction
  obtain ⟨old, planning, deferred, heq⟩ := handleAll_running hrun batches
  have hreaction : reaction = (s.handleAll batches).install resolver hits := by
    have hsame : s.sequence = (s.handleAll batches).sequence := by rw [heq]
    have hstill : (s.handleAll batches).phase = .running := by
      rw [heq]
      exact hrun
    exact if_pos ⟨hsame, hstill⟩
  rw [hreaction, heq]
  exact ⟨rfl, rfl⟩

/-- The answer when nothing has arrived before it. -/
theorem complete_at_once {s : Session} (hrun : s.phase = .running) (resolver : Resolver)
    (hits : List RankedHit) :
    (s.complete resolver s.sequence (.ok hits)).session =
      { s with
        results := (replayOver resolver s.replay.take.1
          (s.results.replace (Hit.classify hits))).1
        phase := .completed
        replay := s.replay.clear
        deferred := []
        planning := none } :=
  (complete_handleAll hrun resolver [] hits).1

/-! ### Without plans -/

/-- A batch that is not planned in the background is applied. -/
theorem session_dispatch_foreground {s : Session} {batch : List Event} (hplan : s.planning = none)
    (hfore : s.plansInBackground batch.length = false) :
    (s.dispatch batch).session = { s with results := (reconcile batch s.results).1 } := by
  have hnone : ¬s.planning.isSome = true := by simp [hplan]
  rw [dispatch]
  by_cases hempty : s.results.isEmpty
  -- without hits the batch is dropped, which is what applying it comes to
  · have hsame : reconcile batch s.results = (s.results, {}) :=
      reconcile_of_hits_nil (List.isEmpty_iff.mp hempty)
    rw [if_pos hempty, hsame]
  · rw [if_neg hempty, if_neg hnone, hfore, if_neg Bool.false_ne_true]
    rfl

/-- **Batches that are not planned in the background** are applied as they arrive. -/
theorem handleAll_foreground {s : Session} {batches : List (List Event)}
    (hplan : s.planning = none) (hidle : s.phase ≠ .running)
    (hfore : ∀ batch ∈ batches, s.plansInBackground batch.length = false) :
    s.handleAll batches = { s with results := (reconcileAll batches s.results).1 } := by
  induction batches generalizing s with
  | nil => rfl
  | cons batch rest ih =>
    have hfirst : (s.handleBatch batch).session =
        { s with results := (reconcile batch s.results).1 } := by
      rw [handleBatch, remember, if_neg hidle]
      exact session_dispatch_foreground hplan (hfore batch List.mem_cons_self)
    rw [handleAll_cons, hfirst]
    exact ih (s := { s with results := (reconcile batch s.results).1 }) hplan hidle
      fun batch hb => hfore batch (List.mem_cons_of_mem _ hb)

/-! ### A first query -/

/-- A session that has asked for what arrived after the beginning of 1970, and waits for the
answer. -/
def asking (settings : Settings) : Session :=
  (fresh settings 0).act (fun ref => .error (.notFound "news item" ref.display))
    (.issue [{ field := .received, specifier := .isAfter, value := .date 0 }])

theorem reachable_asking (settings : Settings) : (asking settings).Reachable :=
  (Reachable.fresh settings 0).act _ _

end Session

end LiveSearch
