import LiveSearch.Proofs.Session.Arrivals
import LiveSearch.Proofs.Session.ReplayOver
import LiveSearch.Proofs.Session.Staleness

/-!
# The size of the replay buffer does not show

The replay buffer bounds what a session keeps while a query runs. What had to give way is looked up
again when the answer arrives, and as long as these lookups repeat what was last heard, nobody can
tell how large the buffer was (`Session.completed_of_capacities`).

Two sessions that differ only in their buffers are run side by side. Nothing but the arrival of a
batch looks at a buffer, and it only adds to it; so whatever happens while the query runs, **the two
still differ only in their buffers, which have heard the same** (`Session.runs_withBuffer`). What
the buffers then hold may be different, but what is replayed from either is one pass over all that
was heard (`Session.Lossless.replayOver_eq`).
-/

namespace LiveSearch

namespace Session

/-- The events that an act delivers. -/
def Act.events : Act → List Event
  | .batch events => events
  | _ => []

/-- **What is heard** in the course of some acts. -/
def heard (steps : List (Resolver × Act)) : List Event :=
  steps.flatMap fun step => step.2.events

theorem heard_cons (step : Resolver × Act) (rest : List (Resolver × Act)) :
    heard (step :: rest) = step.2.events ++ heard rest :=
  List.flatMap_cons

/-- The session with another replay buffer, of the size that its settings then ask for. -/
def withBuffer (s : Session) (b : ReplayBuffer) : Session :=
  { s with settings := { s.settings with replayCapacity := b.capacity }, replay := b }

/-! ### Two sessions side by side -/

section

variable (s : Session) (b : ReplayBuffer)

theorem dispatch_withBuffer (batch : List Event) :
    (s.withBuffer b).dispatch batch =
      { s.dispatch batch with session := (s.dispatch batch).session.withBuffer b } := by
  show (if s.results.isEmpty then _ else if s.planning.isSome then _
    else if s.plansInBackground batch.length then _ else _) = _
  rw [dispatch]
  split
  · rfl
  split
  · rfl
  split
  · rfl
  · rfl

theorem drain_withBuffer (batches : List (List Event)) (total : Outcome) :
    drain batches (s.withBuffer b) total =
      { drain batches s total with session := (drain batches s total).session.withBuffer b } := by
  induction batches generalizing s total with
  | nil => rfl
  | cons batch rest ih =>
    have hfirst := dispatch_withBuffer { s with deferred := rest } b batch
    have hsame : ({ s.withBuffer b with deferred := rest } : Session) =
        ({ s with deferred := rest } : Session).withBuffer b := rfl
    rw [drain, drain, hsame, hfirst]
    cases hupdate : (dispatch { s with deferred := rest } batch).update with
    | reconciled more => exact ih _ _
    | _ => rfl

theorem applyPlan_withBuffer (generation : Nat) (p : Except (List Event) Plan) :
    (s.withBuffer b).applyPlan generation p =
      { s.applyPlan generation p with
        session := (s.applyPlan generation p).session.withBuffer b } := by
  by_cases hnow : s.planning = some generation ∧ s.results.generation = generation
  · obtain ⟨hplan, rfl⟩ := hnow
    have hother := applyPlan_of_planning (s := s.withBuffer b) (p := p) hplan
    rw [applyPlan_of_planning hplan, ← drain_withBuffer]
    exact hother
  · rw [applyPlan_of_not hnow]
    exact applyPlan_of_not (s := s.withBuffer b) hnow

theorem attachResolved_withBuffer (generation : Nat) (items : List Item)
    (missing : List Reference) :
    (s.withBuffer b).attachResolved generation items missing =
      { s.attachResolved generation items missing with
        session := (s.attachResolved generation items missing).session.withBuffer b } := by
  show (if s.results.generation = generation then _ else _) = _
  rw [attachResolved]
  split <;> rfl

theorem materialize_withBuffer (resolver : Resolver) (start stop : Nat) :
    (s.withBuffer b).materialize resolver start stop =
      (s.materialize resolver start stop).map fun result =>
        (result.1.withBuffer b, result.2) := by
  show (if s.isClosed then _ else _) = _
  rw [materialize]
  split <;> rfl

end

/-- A batch that arrives while a query runs is added to either buffer. -/
theorem handleBatch_withBuffer {s : Session} (hrun : s.phase = .running) (b : ReplayBuffer)
    (batch : List Event) :
    ((s.withBuffer b).handleBatch batch).session =
      (s.handleBatch batch).session.withBuffer (b.extend batch) := by
  have hone : (s.withBuffer b).remember batch = (s.remember batch).withBuffer (b.extend batch) := by
    have hother : (s.withBuffer b).phase = .running := hrun
    rw [remember, remember, if_pos hother, if_pos hrun]
    simp only [withBuffer, ReplayBuffer.capacity_extend]
  rw [handleBatch, hone, dispatch_withBuffer]
  rfl

/-- **One act of a session that goes on with its query.** The query still runs, and a session with
another buffer does the same, except that its own buffer hears of the events. -/
theorem act_withBuffer {s : Session} (hrun : s.phase = .running) (b : ReplayBuffer)
    {resolver : Resolver} {a : Act} (hwait : (s.entry resolver a).ends s.sequence = false) :
    ((s.act resolver a).phase = .running ∧ (s.act resolver a).sequence = s.sequence) ∧
      (s.withBuffer b).act resolver a = (s.act resolver a).withBuffer (b.extend a.events) := by
  have hopen : s.isClosed = false := by simp [isClosed, hrun]
  cases a with
  | issue conditions =>
    have hsame : (s.withBuffer b).issue conditions =
        (s.issue conditions).map fun t => t.withBuffer b.clear := by
      show (if s.isClosed then _ else _) = _
      rw [issue, hopen]
      cases validateConditions conditions <;> rfl
    cases hissue : s.issue conditions with
    | ok running => simp [entry, hissue, Entry.ends] at hwait
    | error e =>
      rw [act, act, hsame, hissue]
      exact ⟨⟨hrun, rfl⟩, rfl⟩
  | clear => simp [entry, hopen, Entry.ends] at hwait
  | close => simp [entry, hopen, Entry.ends] at hwait
  | setOrder order => exact ⟨⟨hrun, rfl⟩, rfl⟩
  | resort => exact ⟨⟨hrun, rfl⟩, rfl⟩
  | materialize start stop =>
    rw [act, act, materialize_withBuffer]
    cases hm : s.materialize resolver start stop with
    | ok result =>
      obtain ⟨after, shown⟩ := result
      obtain rfl := session_materialize hm
      exact ⟨⟨hrun, rfl⟩, rfl⟩
    | error e => exact ⟨⟨hrun, rfl⟩, rfl⟩
  | answer sequence answer =>
    -- the answer to the query would end the wait, so it is the answer to another one
    have hstale : ¬(sequence = s.sequence ∧ s.phase = .running) := by
      rintro ⟨rfl, -⟩
      cases answer <;>
        simp [entry, complete_ok hrun, complete_error hrun, install, fail, Update.isAnswer,
          Entry.ends] at hwait
    rw [act, act, complete_of_not hstale, complete_of_not (s := s.withBuffer b) hstale]
    exact ⟨⟨hrun, rfl⟩, rfl⟩
  | lookups generation items missing =>
    have hgoes := s.goesOn_attachResolved generation items missing
    rw [act, act, attachResolved_withBuffer]
    exact ⟨⟨hgoes.phase.trans hrun, hgoes.sequence⟩, rfl⟩
  | plan generation batch isMember =>
    have hgoes := s.goesOn_applyPlan generation (.ok (Plan.ofEvents batch isMember))
    rw [act, act, applyPlan_withBuffer]
    exact ⟨⟨hgoes.phase.trans hrun, hgoes.sequence⟩, rfl⟩
  | unplanned generation batch =>
    have hgoes := s.goesOn_applyPlan generation (.error batch)
    rw [act, act, applyPlan_withBuffer]
    exact ⟨⟨hgoes.phase.trans hrun, hgoes.sequence⟩, rfl⟩
  | batch events =>
    obtain ⟨-, hsequence, hphase, -⟩ := s.sequence_handleBatch events
    rw [act, act, handleBatch_withBuffer hrun]
    exact ⟨⟨hphase.trans hrun, hsequence⟩, rfl⟩
  | silence => exact ⟨⟨hrun, rfl⟩, rfl⟩

/-- **While the query runs** two sessions that differ in their buffers go on to differ in nothing
else, and either buffer hears the same. -/
theorem runs_withBuffer {s : Session} {steps : List (Resolver × Act)} (hrun : s.phase = .running)
    (b : ReplayBuffer) (hwait : ∀ e ∈ s.log steps, e.ends s.sequence = false) :
    ((s.runs steps).phase = .running ∧ (s.runs steps).sequence = s.sequence) ∧
      (s.withBuffer b).runs steps = (s.runs steps).withBuffer (b.extend (heard steps)) := by
  induction steps generalizing s b with
  | nil => exact ⟨⟨hrun, rfl⟩, rfl⟩
  | cons step rest ih =>
    obtain ⟨hfirst, hlater⟩ := List.forall_mem_cons.mp hwait
    obtain ⟨⟨hrun', hsequence⟩, heq⟩ := act_withBuffer hrun b hfirst
    rw [← hsequence] at hlater ⊢
    obtain ⟨hstill, hrest⟩ := ih hrun' (b.extend step.2.events) hlater
    refine ⟨hstill, ?_⟩
    rw [heard_cons, ReplayBuffer.extend_append]
    show ((s.withBuffer b).act step.1 step.2).runs rest = _
    rw [heq, hrest]
    rfl

/-! ### The answer -/

/-- The session that will look its evicted references up again in some order. -/
def recheckingIn (order : List Reference) (s : Session) : Session :=
  { s with replay := { s.replay with evicted := order } }

/-- The session after some acts since it began a query with a buffer of some size. -/
def waiting (s : Session) (steps : List (Resolver × Act)) (capacity : Nat) : Session :=
  (s.begin.withBuffer { capacity }).runs steps

/-- **What the answer to this query leads to**, if the evicted references are looked up again in
some order. -/
def answered (s : Session) (steps : List (Resolver × Act)) (capacity : Nat)
    (order : List Reference) (resolver : Resolver) (hits : List RankedHit) : Reaction :=
  (recheckingIn order (s.waiting steps capacity)).complete resolver s.begin.sequence (.ok hits)

/-- A new buffer that has heard some events is replayed without loss, if the lookups repeat them. -/
theorem lossless_extend {capacity : Nat} {heard : List Event} {order : List Reference}
    {resolver : Resolver}
    (horder : ∀ ref, ref ∈ order ↔ ref ∈ (ReplayBuffer.extend { capacity } heard).evicted)
    (hrepeats : ∀ ref item, Event.lastWord? heard ref = some (.refresh item) →
      resolver ref = .ok item) :
    Lossless (ReplayBuffer.extend { capacity } heard) heard order resolver := by
  have hnew : ReplayBuffer.Holds { capacity } [] := ReplayBuffer.Holds.nil ⟨rfl, rfl⟩
  exact ⟨hnew.extend heard, horder, fun ref _ => hrepeats ref⟩

/-- **The answer after a replay without loss.** Of the buffer nothing is left to see but its
size. -/
theorem complete_recheckingIn {s : Session} {b : ReplayBuffer} {heard : List Event}
    {order : List Reference} {resolver : Resolver} (hrun : s.phase = .running)
    (h : Lossless b heard order resolver) (hits : List RankedHit) :
    let installed := reconcile heard (s.results.replace (Hit.classify hits))
    let after := withBuffer
      { s with results := installed.1, phase := .completed, deferred := [], planning := none }
      { capacity := b.capacity }
    (recheckingIn order (s.withBuffer b)).complete resolver s.sequence (.ok hits) =
      { session := after
        update := .completed s.sequence installed.1.size installed.2
        work := after.eagerLookups } := by
  intro installed after
  have hreplay : replayOver resolver { events := b.events, evicted := order }
      (s.results.replace (Hit.classify hits)) = installed :=
    h.replayOver_eq (ResultSet.nodup_refs_replace s.results _)
  have hcount : (recheckingIn order (s.withBuffer b)).complete resolver s.sequence (.ok hits) =
      (recheckingIn order (s.withBuffer b)).install resolver hits :=
    if_pos ⟨rfl, hrun⟩
  rw [hcount]
  simp only [after, ← hreplay]
  rfl

/-- **The size of the replay buffer does not show.** Let a query begin in any session, and let
anything happen while it runs: batches of any events are delivered, plans and lookups arrive, hits
are shown and sorted. If the lookups at its end show every item as it was last heard of, where that
was a visible version, then the answer comes to the same with buffers of any two sizes, in whatever
order the evicted references are looked up again: the same result set, the same counts of what was
replayed, the same new work. What is left of the difference is the size of the empty buffer. -/
theorem completed_of_capacities (s : Session) (steps : List (Resolver × Act))
    (hwait : ∀ e ∈ s.begin.log steps, e.ends s.begin.sequence = false) (resolver : Resolver)
    (hrepeats : ∀ ref item, Event.lastWord? (heard steps) ref = some (.refresh item) →
      resolver ref = .ok item)
    (capacity capacity' : Nat) (order order' : List Reference)
    (horder : ∀ ref, ref ∈ order ↔ ref ∈ (s.waiting steps capacity).replay.evicted)
    (horder' : ∀ ref, ref ∈ order' ↔ ref ∈ (s.waiting steps capacity').replay.evicted)
    (hits : List RankedHit) :
    let one := s.answered steps capacity order resolver hits
    let other := s.answered steps capacity' order' resolver hits
    one.session.results = other.session.results ∧ one.update = other.update ∧
      one.work = other.work ∧
      (∃ replayed, one.update =
        .completed s.begin.sequence one.session.results.size replayed) ∧
      one.session = other.session.withBuffer { capacity } := by
  intro one other
  have hbegun : s.begin.phase = .running := rfl
  have hruns : ∀ c, s.waiting steps c = (s.begin.runs steps).withBuffer
      (ReplayBuffer.extend { capacity := c } (heard steps)) :=
    fun c => (runs_withBuffer hbegun { capacity := c } hwait).2
  obtain ⟨hrun, hsequence⟩ := (runs_withBuffer hbegun { capacity } hwait).1
  rw [hruns] at horder horder'
  have hone := complete_recheckingIn hrun (lossless_extend horder hrepeats) hits
  have hother := complete_recheckingIn hrun (lossless_extend horder' hrepeats) hits
  rw [← hruns, hsequence, ReplayBuffer.capacity_extend] at hone hother
  have hone' : one = _ := hone
  have hother' : other = _ := hother
  rw [hone', hother']
  exact ⟨rfl, rfl, rfl, ⟨_, rfl⟩, rfl⟩

/-- A buffer without room has to look the one item up again that a larger one keeps. Either way one
hit is refreshed. -/
theorem completed_of_capacities_of_eviction :
    let item : Item :=
      { ref := ⟨1⟩, feed := "f", guid := "a", title := "A", state := .read, received := 5 }
    let hit : RankedHit :=
      { ref := ⟨1⟩, score := Single.zero, state := .unread, attributes := {} }
    let resolver : Resolver := fun _ => .ok item
    let steps : List (Resolver × Act) := [(resolver, .batch [Event.updated item])]
    let s := fresh {} 0
    (s.waiting steps 0).replay.evicted = [⟨1⟩] ∧ (s.waiting steps 1).replay.evicted = [] ∧
      (s.answered steps 0 [⟨1⟩] resolver [hit]).update =
        .completed 1 1 { removed := 0, refreshed := 1 } ∧
      (s.answered steps 0 [⟨1⟩] resolver [hit]).session.results =
        (s.answered steps 1 [] resolver [hit]).session.results ∧
      (s.answered steps 0 [⟨1⟩] resolver [hit]).update =
        (s.answered steps 1 [] resolver [hit]).update := by
  intro item hit resolver steps s
  have hevicted : (s.waiting steps 0).replay.evicted = [⟨1⟩] := rfl
  have hkept : (s.waiting steps 1).replay.evicted = [] := rfl
  have hwait : ∀ e ∈ s.begin.log steps, e.ends s.begin.sequence = false := by
    intro e he
    obtain rfl := List.mem_singleton.mp he
    rfl
  have hrepeats : ∀ ref shown, Event.lastWord? (heard steps) ref = some (.refresh shown) →
      resolver ref = .ok shown := by
    intro ref shown hword
    obtain ⟨e, he, -, hasks⟩ := Event.exists_of_lastWord? hword
    obtain rfl := List.mem_singleton.mp he
    obtain rfl : item = shown := Action.refresh.inj (Option.some.inj hasks)
    rfl
  obtain ⟨hresults, hupdate, -⟩ := completed_of_capacities s steps hwait resolver hrepeats 0 1 [⟨1⟩]
    [] (fun ref => by rw [hevicted]) (fun ref => by rw [hkept]) [hit]
  have horder : ∀ ref, ref ∈ [(⟨1⟩ : Reference)] ↔
      ref ∈ (ReplayBuffer.extend { capacity := 0 } (heard steps)).evicted := fun ref => Iff.rfl
  have hcount : (s.answered steps 0 [⟨1⟩] resolver [hit]).update = _ :=
    congrArg Reaction.update <|
      complete_recheckingIn (s := s.begin) rfl (lossless_extend horder hrepeats) [hit]
  refine ⟨hevicted, hkept, ?_, hresults, hupdate⟩
  rw [hcount, Hit.classify, List.map_singleton, ResultSet.replace_singleton rfl]
  rfl

end Session

end LiveSearch
