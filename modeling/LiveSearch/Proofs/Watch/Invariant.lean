import LiveSearch.Proofs.Reconcile.Buffer
import LiveSearch.Proofs.Session.WellKept
import LiveSearch.Proofs.Watch.Heeding
import LiveSearch.Proofs.Watch.Moves

/-!
# What holds while a session watches a corpus

A change of an item reaches the hits on one of several ways: with the answer of a query, with a
batch that is applied on the spot, with a plan, with a batch that waits for a plan, with the replay
of what was received while a query ran, or because an evicted reference is looked up again. The
invariant (`Watch.Sound`) says of everything that is under way what it will come to.

* What a subscription has still to hear **tells the truth** in the end: the last word on a reference
  is that of the store (`Watch.Current.told`). This includes what was heard since the query was
  issued.
* The hits heed what is **outstanding**: the batch that is planned, the batches that wait, and what
  is still to be heard, in this order (`Watch.Current.hits`).
* The hits of an answer that is under way heed what was heard since the query was issued, and what
  is still to be heard. An item that a lookup has found is the stored one, or something outstanding
  will replace it (`Errand.Fits`).

This file defines the invariant and proves that the moves keep it in which nothing is delivered.
-/

namespace LiveSearch

/-! ### Plans among the work -/

namespace Errand

/-- The batches that a piece of work plans. -/
def batches : Errand → List (List Event)
  | .plan _ batch _ => [batch]
  | _ => []

/-- Is the work a plan for the hits of a generation? -/
def plans (generation : Nat) : Errand → Bool
  | .plan g .. => g = generation
  | _ => false

theorem plans_ofWork_query (generation sequence : Nat) (answer : Except Failure (List RankedHit))
    (verify : Bool) : (ofWork (.query sequence answer verify)).plans generation = false := by
  cases answer with
  | error e => rfl
  | ok hits => cases verify <;> rfl

/-- Work for a query is no plan. -/
theorem plans_of_sequence? (generation : Nat) {e : Errand} {sequence : Nat}
    (h : e.sequence? = some sequence) : e.plans generation = false := by
  cases e with
  | plan g batch members => cases h
  | _ => rfl

/-- Work of which nothing is heard when it breaks off is no plan. -/
theorem plans_of_breakOff? (generation : Nat) {e : Errand} {reason : String}
    (h : e.breakOff? reason = none) : e.plans generation = false := by
  cases e with
  | plan g batch members => cases h
  | _ => rfl

/-- A reading neither makes a plan nor changes one. -/
theorem plans_proceed (generation : Nat) (sources : Sources) (e : Errand) :
    (e.proceed sources).plans generation = e.plans generation ∧
      (e.plans generation = true → e.proceed sources = e) := by
  cases e with
  | asked sequence conditions matchAll verify =>
    exact ⟨plans_ofWork_query _ _ _ _, fun h => by cases h⟩
  | answered sequence kept rest => cases rest <;> exact ⟨rfl, fun h => by cases h⟩
  | failed sequence e => exact ⟨rfl, fun _ => rfl⟩
  | lookup g rest found missing =>
    cases rest with
    | nil => exact ⟨rfl, fun _ => rfl⟩
    | cons ref rest =>
      refine ⟨?_, fun h => by cases h⟩
      rw [proceed]
      split <;> rfl
  | plan g batch members => exact ⟨rfl, fun _ => rfl⟩

end Errand

/-- Changing one element, where the change is seen neither by a test nor in an element that passes
it, leaves those that pass. -/
theorem filter_modify {α : Type} {p : α → Bool} {f : α → α}
    (hf : ∀ x, p (f x) = p x ∧ (p x = true → f x = x)) (xs : List α) (i : Nat) :
    (xs.modify i f).filter p = xs.filter p := by
  induction xs generalizing i with
  | nil => cases i <;> rfl
  | cons x xs ih =>
    cases i with
    | zero =>
      rw [List.modify_zero_cons, List.filter_cons, List.filter_cons, (hf x).1]
      split
      · next hp => rw [(hf x).2 hp]
      · rfl
    | succ i => rw [List.modify_succ_cons, List.filter_cons, List.filter_cons, ih]

theorem mem_modify {α : Type} {f : α → α} {xs : List α} {i : Nat} {y : α}
    (hy : y ∈ xs.modify i f) : y ∈ xs ∨ ∃ x ∈ xs, y = f x := by
  induction xs generalizing i with
  | nil => cases i <;> simp at hy
  | cons x xs ih =>
    cases i with
    | zero =>
      rw [List.modify_zero_cons] at hy
      rcases List.mem_cons.mp hy with rfl | hy
      · exact Or.inr ⟨x, by simp, rfl⟩
      · exact Or.inl (by simp [hy])
    | succ i =>
      rw [List.modify_succ_cons] at hy
      rcases List.mem_cons.mp hy with rfl | hy
      · exact Or.inl (by simp)
      · rcases ih hy with hmem | ⟨z, hz, rfl⟩
        · exact Or.inl (by simp [hmem])
        · exact Or.inr ⟨z, by simp [hz], rfl⟩

/-! ### What is outstanding -/

namespace Watch

/-- The batches that are queued for the session. -/
def queue (w : Watch) : List (List Event) :=
  match w.session.listener with
  | some listener => w.corpus.bus.queue listener.subscription
  | none => []

/-- The events that the session has still to hear, of which the last are not yet announced. -/
def upcoming (w : Watch) : List Event :=
  w.queue.flatten ++ w.change.unannounced

/-- The plans that are being made for the hits that are there. -/
def plans (w : Watch) : List Errand :=
  w.errands.filter (Errand.plans w.session.results.generation)

/-- The batches that the session has received and its hits do not heed yet: the one that is planned,
and those that wait. -/
def waiting (w : Watch) : List (List Event) :=
  w.plans.flatMap Errand.batches ++ w.session.deferred

/-- **What the hits have still to heed**, in the order in which it will be applied. -/
def outstanding (w : Watch) : List Event :=
  w.waiting.flatten ++ w.upcoming

/-- **There is one plan** for the hits that are there, and it is the one that the session waits for;
or the session waits for none, and there is none. -/
def OnePlan (w : Watch) : Prop :=
  (w.session.planning = none ∧ w.plans = []) ∨
    ∃ batch members, w.session.planning = some w.session.results.generation ∧
      w.plans = [.plan w.session.results.generation batch members] ∧
      ∀ h ∈ w.session.results.hits, h.ref ∈ members

theorem upcoming_of_listener {w : Watch} {listener : Listener}
    (h : w.session.listener = some listener) :
    w.upcoming =
      (w.corpus.bus.queue listener.subscription).flatten ++ w.change.unannounced := by
  rw [upcoming, queue, h]

/-! ### The invariant -/

/-- The item is the stored one, unless something outstanding will replace it in the hit that it is
to be attached to. -/
def Fresh (w : Watch) (v : Item) : Prop :=
  ∀ h ∈ w.session.results.hits, h.ref = v.ref → h.item = none →
    Event.lastWord? w.outstanding v.ref = none → w.corpus.store.resolve v.ref = .ok v

end Watch

/-- **What holds of a piece of work.** Work for older queries and older hits will not count. -/
def Errand.Fits (heard : List Event) (w : Watch) : Errand → Prop
  | .asked sequence .. => sequence ≤ w.session.sequence
  | .answered sequence kept rest =>
    sequence ≤ w.session.sequence ∧
      (sequence = w.session.sequence → w.session.phase = .running →
        ∀ hit ∈ kept ++ rest, ∀ thresholds,
          (Hit.ofRanked thresholds hit).Heeds (heard ++ w.upcoming) w.corpus.store)
  | .failed .. => True
  | .lookup generation _ found _ =>
    generation ≤ w.session.results.generation ∧
      (generation = w.session.results.generation → ∀ v ∈ found, w.Fresh v)
  | .plan generation .. => generation ≤ w.session.results.generation

/-- **Work still fits** when the session goes on. The hits of an answer count only while their query
runs, and the items of a lookup only while their hits are there; nothing is asked of the others. -/
theorem Errand.Fits.mono {heard heard' : List Event} {w w' : Watch} {e : Errand}
    (h : e.Fits heard w)
    (hsequence : w.session.sequence ≤ w'.session.sequence)
    (hgeneration : w.session.results.generation ≤ w'.session.results.generation)
    (hanswers : w'.session.sequence = w.session.sequence → w'.session.phase = .running →
      w.session.phase = .running ∧ ∀ x : Hit, x.Heeds (heard ++ w.upcoming) w.corpus.store →
        x.Heeds (heard' ++ w'.upcoming) w'.corpus.store)
    (hfresh : w'.session.results.generation = w.session.results.generation →
      ∀ v, w.Fresh v → w'.Fresh v) : e.Fits heard' w' := by
  cases e with
  | asked sequence conditions matchAll verify => exact Nat.le_trans h hsequence
  | answered sequence kept rest =>
    obtain ⟨hle, hheeds⟩ := h
    refine ⟨hle.trans hsequence, fun hlast hrun hit hhit thresholds => ?_⟩
    -- a number that is the latest now was the latest before
    have hsame : w'.session.sequence = w.session.sequence := by omega
    obtain ⟨hbefore, hanswer⟩ := hanswers hsame hrun
    exact hanswer _ (hheeds (hlast.trans hsame) hbefore hit hhit thresholds)
  | failed sequence e => trivial
  | lookup generation rest found missing =>
    obtain ⟨hle, hitems⟩ := h
    refine ⟨hle.trans hgeneration, fun hlast v hv => ?_⟩
    have hsame : w'.session.results.generation = w.session.results.generation := by omega
    exact hfresh hsame v (hitems (hlast.trans hsame) v hv)
  | plan generation batch members => exact Nat.le_trans h hgeneration

namespace Watch

/-- **Whatever is under way comes to the truth.** The events of `heard` are those that were received
since the last query was issued. -/
structure Current (heard : List Event) (w : Watch) : Prop where
  /-- The session is subscribed. -/
  listens : ∃ listener, w.session.listener = some listener ∧
    w.corpus.bus.Listens listener.subscription
  /-- What was heard and what is still to be heard has the word of the store for the last. -/
  told : ∀ ref a, Event.lastWord? (heard ++ w.upcoming) ref = some a →
    w.corpus.store.word ref = a
  /-- While a query runs the replay buffer holds what was heard. -/
  held : w.session.phase = .running → w.session.replay.Holds heard
  /-- The hits heed what is outstanding. -/
  hits : ∀ h ∈ w.session.results.hits, h.Heeds w.outstanding w.corpus.store
  /-- There is one plan for the hits that are there, or none. -/
  planned : w.OnePlan
  /-- All work will come to the truth. -/
  errands : ∀ e ∈ w.errands, e.Fits heard w

/-- **The invariant.** -/
structure Sound (heard : List Event) (w : Watch) : Prop where
  /-- The session is well kept. -/
  kept : w.session.WellKept
  /-- The corpus is as far as the change has come. -/
  steady : w.corpus.Steady w.change
  /-- Unless the session is closed, whatever is under way comes to the truth. -/
  current : w.session.phase ≠ .closed → w.Current heard

variable {heard : List Event} {w : Watch}

/-- **A session that is opened** has nothing under way. -/
theorem sound_opening {c : Corpus} (hc : c.Grown) (settings : Settings) :
    (opening c settings).Sound [] := by
  obtain ⟨⟨hfaithful, hpending, hunder⟩, hnumbered⟩ := hc.steady
  refine ⟨Session.WellKept.fresh _ _, ⟨hfaithful, hpending, hunder⟩, fun _ => ?_⟩
  have hqueue : (opening c settings).queue = [] := Bus.queue_subscribe hnumbered
  refine ⟨⟨_, rfl, Bus.listens_subscribe hnumbered⟩, fun ref a hw => ?_, fun hrun => ?_, ?_,
    Or.inl ⟨rfl, rfl⟩, ?_⟩
  · rw [upcoming, hqueue] at hw
    cases hw
  · cases hrun
  · intro h hh
    cases hh
  · intro e he
    cases he

/-! ### The corpus moves -/

/-- Some news of the store is added to what a session has still to hear. -/
theorem Current.tells {c : Corpus} {change : Change} (h : w.Current heard) (news : List Event)
    (hlistens : ∀ id, w.corpus.bus.Listens id → c.bus.Listens id)
    (hnews : Store.Tells news w.corpus.store c.store)
    (hupcoming : ({ w with corpus := c, change } : Watch).upcoming = w.upcoming ++ news) :
    Current heard { w with corpus := c, change } := by
  have houtstanding : ({ w with corpus := c, change } : Watch).outstanding =
      w.outstanding ++ news := by
    rw [outstanding, hupcoming, ← List.append_assoc]
    rfl
  obtain ⟨listener, hlistener, hin⟩ := h.listens
  refine ⟨⟨listener, hlistener, hlistens _ hin⟩, fun ref a hw => ?_, h.held, fun x hx => ?_,
    h.planned, fun e he => ?_⟩
  · rw [hupcoming, ← List.append_assoc, Event.lastWord?_append] at hw
    cases hn : Event.lastWord? news ref with
    | none =>
      rw [hn, Option.none_or] at hw
      exact (Store.word_congr (hnews.silent ref hn)).trans (h.told ref a hw)
    | some b =>
      rw [hn, Option.some_or] at hw
      exact (hnews.spoken ref b hn).trans (Option.some.inj hw)
  · rw [houtstanding]
    exact (h.hits x hx).tells hnews
  · refine (h.errands e he).mono le_rfl le_rfl (fun _ hrun => ⟨hrun, fun x hx => ?_⟩)
      fun _ v hv x hx href hitem hw => ?_
    · rw [hupcoming, ← List.append_assoc]
      exact hx.tells hnews
    · rw [houtstanding, Event.lastWord?_append, Option.or_eq_none_iff] at hw
      exact (hnews.silent v.ref hw.1).trans (hv x hx href hitem hw.2)

theorem step_write (w : Watch) :
    w.step .write =
      { w with
        corpus := (w.change.step w.corpus).1
        change := (w.change.step w.corpus).2 } := rfl

theorem Sound.write (h : w.Sound heard) : (w.step .write).Sound heard := by
  rw [step_write]
  refine ⟨h.kept, h.steady.step, fun hopen => ?_⟩
  have hcurrent := h.current hopen
  obtain ⟨listener, hlistener, hin⟩ := hcurrent.listens
  obtain ⟨-, news, hnews, hqueue⟩ := Change.step_tells hin w.change
  refine hcurrent.tells news (fun id hid => (Change.step_tells hid w.change).1) hnews ?_
  rw [upcoming_of_listener hlistener]
  exact (upcoming_of_listener (w := w.step .write) hlistener).trans hqueue

theorem Sound.edit (h : w.Sound heard) (e : Edit) : (w.step (.edit e)).Sound heard := by
  rw [step]
  split
  · next result hdone =>
    have hsteady := h.steady
    rw [hdone] at hsteady
    obtain ⟨hbegun, hsilent⟩ := hsteady.edit e
    refine ⟨h.kept, hbegun, fun hopen => ?_⟩
    refine (h.current hopen).tells [] (fun id hid => hid) (Store.tells_nil _) ?_
    show w.queue.flatten ++ e.change.unannounced = w.queue.flatten ++ w.change.unannounced ++ []
    rw [hsilent, hdone, Change.unannounced, List.append_nil, List.append_nil]
  · exact h

/-! ### Work reads -/

/-- What a query reads will come to the truth: a document is that of the stored item, or else
something about its reference is still to be announced. -/
theorem heeds_of_execute (hsteady : w.corpus.Steady w.change) (h : w.Current heard)
    {conditions : List Condition} {matchAll : Bool} {hits : List RankedHit}
    (hanswer : w.corpus.sources.provider.execute conditions matchAll = .ok hits)
    {hit : RankedHit} (hhit : hit ∈ hits) (thresholds : Thresholds) :
    (Hit.ofRanked thresholds hit).Heeds (heard ++ w.upcoming) w.corpus.store := by
  obtain ⟨raw, hraw, hmem, hvisible⟩ := Provider.mem_execute hanswer hhit
  obtain ⟨d, hd, href, hstate, hattributes⟩ := Index.mem_search hraw hmem
  refine Hit.heeds_of (fun hsilent => ?_) (h.told hit.ref)
  have hunannounced : Event.lastWord? w.change.unannounced d.ref = none := by
    rw [← href]
    rw [upcoming, ← List.append_assoc, Event.lastWord?_append, Option.or_eq_none_iff] at hsilent
    exact hsilent.1
  -- nothing about the document is still to be announced, so it is that of the stored item
  obtain ⟨item, hstored, hdocument⟩ := hsteady.underway.stored hd hunannounced
  have hsame : hit.state = item.state := by
    rw [hdocument] at hstate
    have hcode : State.ofCode? item.state.code = some item.state := by cases item.state <;> rfl
    exact Option.some.inj (hstate.symm.trans hcode)
  refine ⟨item, ?_, ?_, hsame, ?_, fun v hv => by cases hv⟩
  · exact (congrArg w.corpus.store.resolve href).trans hstored
  · rw [Item.isVisible, ← hsame]
    exact hvisible
  · show hit.attributes = _
    rw [hattributes, hdocument]
    rfl

/-- **A reading comes to the truth.** -/
theorem fits_proceed (hsteady : w.corpus.Steady w.change) (h : w.Current heard) {e : Errand}
    (hfits : e.Fits heard w) : (e.proceed w.corpus.sources).Fits heard w := by
  cases e with
  | asked sequence conditions matchAll verify =>
    rw [Errand.proceed]
    cases hanswer : w.corpus.sources.provider.execute conditions matchAll with
    | error e => trivial
    | ok hits =>
      have hheeds : ∀ hit ∈ hits, ∀ thresholds, (Hit.ofRanked thresholds hit).Heeds
          (heard ++ w.upcoming) w.corpus.store :=
        fun hit hhit => heeds_of_execute hsteady h hanswer hhit
      cases verify with
      | true => exact ⟨hfits, fun _ _ => hheeds⟩
      | false =>
        refine ⟨hfits, fun _ _ hit hhit => hheeds hit ?_⟩
        rw [List.append_nil] at hhit
        exact hhit
  | answered sequence kept rest =>
    cases rest with
    | nil => exact hfits
    | cons hit rest =>
      refine ⟨hfits.1, fun hs hp x hx => hfits.2 hs hp x ?_⟩
      rcases List.mem_append.mp hx with hx | hx
      · split at hx
        · rcases List.mem_append.mp hx with hx | hx
          · simp [hx]
          · simp [List.mem_singleton.mp hx]
        · simp [hx]
      · simp [hx]
  | failed sequence e => trivial
  | lookup generation rest found missing =>
    cases rest with
    | nil => exact hfits
    | cons ref rest =>
      rw [Errand.proceed]
      cases hr : w.corpus.sources.resolver ref with
      | error e => exact hfits
      | ok item =>
        refine ⟨hfits.1, fun hg v hv => ?_⟩
        rcases List.mem_append.mp hv with hv | hv
        · exact hfits.2 hg v hv
        · obtain rfl := List.mem_singleton.mp hv
          intro x hx href hitem hsilent
          rw [hsteady.faithful.found ref v hr]
          exact hr
  | plan generation batch members => exact hfits

theorem plans_proceed (w : Watch) (position : Nat) :
    (w.step (.proceed position)).plans = w.plans :=
  filter_modify (Errand.plans_proceed _ _) w.errands position

theorem Sound.proceed (h : w.Sound heard) (position : Nat) :
    (w.step (.proceed position)).Sound heard := by
  refine ⟨h.kept, h.steady, fun hopen => ?_⟩
  have hcurrent := h.current hopen
  have hplans := w.plans_proceed position
  have hsame : (w.step (.proceed position)).outstanding = w.outstanding := by
    rw [outstanding, waiting, hplans]
    rfl
  have hfits : ∀ {e : Errand}, e.Fits heard w → e.Fits heard (w.step (.proceed position)) := by
    intro e he
    refine he.mono le_rfl le_rfl (fun _ hrun => ⟨hrun, fun _ hx => hx⟩)
      fun _ v hv x hx href hitem hw => ?_
    rw [hsame] at hw
    exact hv x hx href hitem hw
  refine ⟨hcurrent.listens, hcurrent.told, hcurrent.held, fun x hx => ?_, ?_, fun e he => ?_⟩
  · rw [hsame]
    exact hcurrent.hits x hx
  · rw [OnePlan, hplans]
    exact hcurrent.planned
  · rcases mem_modify he with hmem | ⟨e', hmem, rfl⟩
    · exact hfits (hcurrent.errands e hmem)
    · exact hfits (fits_proceed h.steady hcurrent (hcurrent.errands e' hmem))

end Watch

end LiveSearch
