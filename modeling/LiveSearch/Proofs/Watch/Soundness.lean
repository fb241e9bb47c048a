import Mathlib.Data.List.Induction
import LiveSearch.Proofs.Watch.Applying

/-!
# The invariant at all times

Every move keeps the invariant (`Watch.Sound.step`), and so it holds of every watch that can occur
(`Watch.Occurs.sound`). The moves that deliver something are split by how the work has ended, and
then by what becomes of its message: it counts, or it has come too late.
-/

namespace LiveSearch.Watch

variable {heard : List Event} {w : Watch}

/-- What was heard since the last query was issued, after a move. -/
def hears (w : Watch) (heard : List Event) : Move → List Event
  | .issue conditions _ => if (w.session.issue conditions).isOk then [] else heard
  | .receive => heard ++ (w.next?.elim [] (·.1))
  | _ => heard

/-! ### The session is asked for something -/

/-- The watch after a query has been issued. -/
def asking (w : Watch) (conditions : List Condition) (matchAll : Bool) : Watch :=
  { w with
    session := w.session.begin
    errands := w.errands ++ [.asked w.session.begin.sequence conditions matchAll
      w.session.begin.settings.verifyExistence] }

/-- An issue that succeeds begins the next query; one that fails changes nothing. -/
theorem step_issue (w : Watch) (conditions : List Condition) (matchAll : Bool) :
    ((w.session.issue conditions).isOk = true ∧ w.session.phase ≠ .closed ∧
        w.step (.issue conditions matchAll) = w.asking conditions matchAll) ∨
      ((w.session.issue conditions).isOk = false ∧ w.step (.issue conditions matchAll) = w) := by
  rw [step]
  cases hissue : w.session.issue conditions with
  | error e => exact Or.inr ⟨rfl, rfl⟩
  | ok running =>
    obtain ⟨hopen, -, rfl⟩ := Session.issue_ok hissue
    exact Or.inl ⟨rfl, by simpa [Session.isClosed] using hopen, rfl⟩

theorem plans_asking (w : Watch) (conditions : List Condition) (matchAll : Bool) :
    (w.asking conditions matchAll).plans = w.plans := by
  rw [plans, asking, List.filter_append]
  exact List.append_nil _

/-- **A query begins** with nothing heard, and all older queries have older numbers. -/
theorem Current.asking (h : w.Current heard) (conditions : List Condition) (matchAll : Bool) :
    (w.asking conditions matchAll).Current [] := by
  have hplans := w.plans_asking conditions matchAll
  have hsame : (w.asking conditions matchAll).outstanding = w.outstanding := by
    rw [outstanding, waiting, hplans]
    rfl
  refine ⟨h.listens, fun ref a hw => h.told ref a ?_, fun _ => ReplayBuffer.Holds.nil ⟨rfl, rfl⟩,
    fun x hx => ?_, ?_, fun e he => ?_⟩
  · rw [Event.lastWord?_append]
    exact Option.or_eq_some_iff.mpr (Or.inl hw)
  · rw [hsame]
    exact h.hits x hx
  · rw [OnePlan, hplans]
    exact h.planned
  · rcases List.mem_append.mp he with hold | hnew
    · refine (h.errands e hold).mono (Nat.le_succ _) le_rfl (fun hlast => ?_)
        fun _ v hv x hx href hitem hw => ?_
      · exact absurd hlast (Nat.succ_ne_self _)
      · rw [hsame] at hw
        exact hv x hx href hitem hw
    · obtain rfl := List.mem_singleton.mp hnew
      exact Nat.le_refl _

theorem Sound.issue (h : w.Sound heard) (conditions : List Condition) (matchAll : Bool) :
    (w.step (.issue conditions matchAll)).Sound (w.hears heard (.issue conditions matchAll)) := by
  rw [hears]
  -- a query that begins forgets what was heard for the one before
  rcases w.step_issue conditions matchAll with ⟨hok, hopen, heq⟩ | ⟨hfailed, heq⟩
  · rw [if_pos hok, heq]
    exact ⟨h.kept.begin, h.steady, fun _ => (h.current hopen).asking conditions matchAll⟩
  · rw [if_neg (by simp [hfailed]), heq]
    exact h

theorem Sound.clear (h : w.Sound heard) : (w.step .clear).Sound heard := by
  refine ⟨h.kept.clear, h.steady, fun hopen => ?_⟩
  rw [step, Session.clear] at hopen ⊢
  by_cases hclosed : w.session.isClosed = true
  · rw [if_pos hclosed] at hopen ⊢
    exact h.current hopen
  · rw [if_neg hclosed]
    have hcurrent := h.current (by simpa [Session.isClosed] using hclosed)
    exact hcurrent.reset w.errands rfl rfl rfl (Nat.le_succ _) (by simp)
      fun _ he => he

theorem Sound.close (h : w.Sound heard) : (w.step .close).Sound heard := by
  rw [step]
  split
  · refine ⟨h.kept.close, ⟨h.steady.faithful, h.steady.pending, h.steady.underway⟩, fun hopen => ?_⟩
    exact absurd (Session.phase_close w.session) hopen
  · refine ⟨h.kept.close, h.steady, fun hopen => ?_⟩
    exact absurd (Session.phase_close w.session) hopen

theorem Sound.setOrder (h : w.Sound heard) (order : SortOrder) :
    (w.step (.setOrder order)).Sound heard := by
  refine ⟨h.kept.withResults rfl id, h.steady, fun hopen => ?_⟩
  have hcurrent := h.current hopen
  exact hcurrent.withResults _ w.errands rfl rfl (fun _ he => he)
    (fun x hx => ⟨x, hx, rfl, id⟩) hcurrent.hits

theorem Sound.resort (h : w.Sound heard) : (w.step .resort).Sound heard := by
  refine ⟨h.kept.resort, h.steady, fun hopen => ?_⟩
  have hcurrent := h.current hopen
  exact hcurrent.withResults _ w.errands rfl rfl (fun _ he => he)
    (fun x hx => ⟨x, List.mem_mergeSort.mp hx, rfl, id⟩)
    fun x hx => hcurrent.hits x (List.mem_mergeSort.mp hx)

/-- An item that a lookup finds now is the stored one. -/
theorem fresh_of_mem_found (hfaithful : w.corpus.store.Faithful) {refs : List Reference} {v : Item}
    (hv : v ∈ Resolver.found w.corpus.store.resolve refs) : w.Fresh v := by
  obtain ⟨ref, -, hfound⟩ := List.mem_filterMap.mp hv
  cases hr : w.corpus.store.resolve ref with
  | error e =>
    rw [hr] at hfound
    cases hfound
  | ok item =>
    rw [hr] at hfound
    obtain rfl : item = v := Option.some.inj hfound
    intro x hx href hitem hw
    rw [hfaithful.found ref item hr]
    exact hr

theorem Sound.materialize (h : w.Sound heard) (start stop : Nat) :
    (w.step (.materialize start stop)).Sound heard := by
  rw [step]
  cases hm : w.session.materialize w.corpus.sources.resolver start stop with
  | error e => exact h
  | ok result =>
    obtain ⟨after, shown⟩ := result
    refine ⟨h.kept.materialize hm, h.steady, fun hopen => ?_⟩
    obtain rfl := Session.session_materialize hm
    exact (h.current hopen).attach w.errands rfl (fun _ he => he)
      fun v hv => fresh_of_mem_found h.steady.faithful hv

/-! ### A message is delivered -/

/-- What is not counted changes nothing but the work. -/
theorem Current.drop (h : w.Current heard) {position : Nat}
    (hplans : (w.without position).plans = w.plans) : (w.without position).Current heard :=
  h.withResults w.session.results _ rfl hplans
    (fun _ he => (List.eraseIdx_sublist _ _).subset he) (fun x hx => ⟨x, hx, rfl, id⟩) h.hits

/-- **An answer is delivered.** -/
theorem Sound.deliver_answer (h : w.Sound heard) {position sequence : Nat}
    {kept : List RankedHit} (he : w.errands[position]? = some (.answered sequence kept [])) :
    ((w.without position).react (w.session.complete w.corpus.store.resolve sequence
      (.ok kept))).Sound heard := by
  refine ⟨h.kept.complete _ _ _, h.steady, fun hopen => ?_⟩
  by_cases hnow : sequence = w.session.sequence ∧ w.session.phase = .running
  · obtain ⟨rfl, hrun⟩ := hnow
    have hcurrent := h.current (by rw [hrun]; decide)
    have hfits := hcurrent.errands _ (List.mem_of_getElem? he)
    rw [Session.complete_ok hrun]
    exact hcurrent.installs (installs_react w position kept) h.steady.faithful hrun
      fun hit hhit => hfits.2 rfl hrun hit (List.mem_append_left _ hhit)
  · rw [Session.complete_of_not hnow] at hopen ⊢
    rw [react_of_work_nil _ rfl] at hopen ⊢
    exact (h.current hopen).drop (plans_without he rfl)

/-- **The failure of a query is delivered.** -/
theorem Sound.deliver_failure (h : w.Sound heard) {position sequence : Nat} {errand : Errand}
    (he : w.errands[position]? = some errand) (hquery : errand.sequence? = some sequence)
    (e : Failure) :
    ((w.without position).react (w.session.complete w.corpus.store.resolve sequence
      (.error e))).Sound heard := by
  refine ⟨h.kept.complete _ _ _, h.steady, fun hopen => ?_⟩
  by_cases hnow : sequence = w.session.sequence ∧ w.session.phase = .running
  · obtain ⟨rfl, hrun⟩ := hnow
    have hcurrent := h.current (by rw [hrun]; decide)
    rw [Session.complete_error hrun, react_of_work_nil _ rfl]
    exact hcurrent.reset (w.without position).errands rfl rfl rfl (Nat.le_refl _)
      (by simp [Session.fail]) fun _ he => mem_without he
  · rw [Session.complete_of_not hnow] at hopen ⊢
    rw [react_of_work_nil _ rfl] at hopen ⊢
    exact (h.current hopen).drop (plans_without he (Errand.plans_of_sequence? _ hquery))

/-- **Looked-up items are delivered.** -/
theorem Sound.deliver_lookup (h : w.Sound heard) {position generation : Nat} {found : List Item}
    {missing : List Reference}
    (he : w.errands[position]? = some (.lookup generation [] found missing)) :
    ((w.without position).react (w.session.attachResolved generation found missing)).Sound
      heard := by
  refine ⟨h.kept.attachResolved _ _ _, h.steady, fun hopen => ?_⟩
  rw [Session.attachResolved] at hopen ⊢
  by_cases hg : w.session.results.generation = generation
  · rw [if_pos hg] at hopen ⊢
    rw [react_of_work_nil _ rfl] at hopen ⊢
    have hcurrent := h.current hopen
    have hfits := hcurrent.errands _ (List.mem_of_getElem? he)
    exact hcurrent.attach (w.without position).errands (plans_without he rfl)
      (fun _ he => mem_without he) (hfits.2 hg.symm)
  · rw [if_neg hg] at hopen ⊢
    rw [react_of_work_nil _ rfl] at hopen ⊢
    exact (h.current hopen).drop (plans_without he rfl)

/-! ### Batches have their turn -/

/-- **A plan is delivered**, or a batch without one. -/
theorem Sound.deliver_plan (h : w.Sound heard) {position generation : Nat} {batch : List Event}
    {members : List Reference} {plan : Except (List Event) Plan}
    (he : w.errands[position]? = some (.plan generation batch members))
    (hends : (Errand.plan generation batch members).EndsWith (.planned generation plan)) :
    ((w.without position).react (w.session.applyPlan generation plan)).Sound heard := by
  refine ⟨h.kept.applyPlan _ _, h.steady, fun hopen => ?_⟩
  obtain ⟨hlistener, hsequence, hphase, hreplay, -⟩ := w.session.goesOn_applyPlan generation plan
  have hcurrent := h.current (by rw [← hphase]; exact hopen)
  obtain ⟨first, happlies⟩ := applies_plan hcurrent he hends
  obtain ⟨listener, hl, hin⟩ := hcurrent.listens
  have hl' : (w.session.applyPlan generation plan).session.listener = some listener :=
    hlistener.trans hl
  have hcurrent' := hcurrent.applies happlies rfl hsequence hphase ?_ ⟨listener, hl', hin⟩
    fun hrun => ?_
  · rw [List.flatten_nil, List.append_nil] at hcurrent'
    exact hcurrent'
  · rw [List.flatten_nil, List.nil_append, upcoming_of_listener hl, upcoming_of_listener hl']
    rfl
  · rw [List.flatten_nil, List.append_nil]
    have hheld := hcurrent.held (hphase.symm.trans hrun)
    rw [← hreplay] at hheld
    exact hheld

/-- **A batch is received.** It is heard now, and no longer to be heard. -/
theorem Current.receive (h : w.Current heard) (hkept : w.session.WellKept) {batch : List Event}
    {bus : Bus} (hnext : w.next? = some (batch, bus)) :
    ((w.withBus bus).react (w.session.handleBatch batch)).Current (heard ++ batch) := by
  obtain ⟨listener, hlistener, hreceived, rfl⟩ := next?_eq_some hnext
  obtain ⟨first, happlies⟩ :=
    applies_batch h hkept batch (w.corpus.bus.receive listener.subscription).1
  obtain ⟨hsame, hsequence, hphase, -⟩ := w.session.sequence_handleBatch batch
  have hreplay := ((w.session.remember batch).goesOn_dispatch batch).replay
  have hlistener' : (w.session.handleBatch batch).session.listener = some listener :=
    hsame.trans hlistener
  have hlistens : w.corpus.bus.Listens listener.subscription := by
    obtain ⟨l, hl, hin⟩ := h.listens
    obtain rfl := Option.some.inj (hl.symm.trans hlistener)
    exact hin
  have hcurrent := h.applies happlies rfl hsequence hphase ?_
    ⟨listener, hlistener', hlistens.receive⟩ fun hrun => ?_
  · rw [List.flatten_singleton] at hcurrent
    exact hcurrent
  · rw [upcoming_of_listener hlistener, List.flatten_singleton,
      Bus.queue_receive hlistens hreceived, List.flatten_cons, List.append_assoc,
      upcoming_of_listener hlistener']
    rfl
  · have hbefore : w.session.phase = .running := hphase.symm.trans hrun
    have hheld := (h.held hbefore).extend batch
    rw [← Session.replay_remember hbefore, ← hreplay] at hheld
    rw [List.flatten_singleton]
    exact hheld

theorem Sound.receive (h : w.Sound heard) :
    (w.step .receive).Sound (w.hears heard .receive) := by
  rw [step, hears]
  cases hnext : w.next? with
  | none =>
    rw [Option.elim_none, List.append_nil]
    exact h
  | some next =>
    obtain ⟨batch, bus⟩ := next
    refine ⟨h.kept.handleBatch batch, ⟨h.steady.faithful, h.steady.pending, h.steady.underway⟩,
      fun hopen => ?_⟩
    have hphase := (w.session.sequence_handleBatch batch).2.2.1
    exact (h.current (by rw [← hphase]; exact hopen)).receive h.kept hnext

/-! ### Every move -/

/-- **Work ends**, whichever message it ends with. -/
theorem Sound.ending (h : w.Sound heard) {position : Nat} {e : Errand} {message : Message}
    (he : w.errands[position]? = some e) (hends : e.EndsWith message) :
    (w.ending position message).Sound heard := by
  cases hends with
  | answer sequence kept => exact h.deliver_answer he
  | failure failure hquery => exact h.deliver_failure he hquery failure
  | lookup generation found missing => exact h.deliver_lookup he
  | plan generation batch members => exact h.deliver_plan he (.plan generation batch members)
  | unplanned generation batch members =>
    exact h.deliver_plan he (.unplanned generation batch members)

theorem Sound.deliver (h : w.Sound heard) (position : Nat) :
    (w.step (.deliver position)).Sound heard := by
  rcases w.step_deliver position with heq | ⟨e, message, he, hends, heq⟩ <;> rw [heq]
  · exact h
  · exact h.ending he hends

theorem Sound.breakOff (h : w.Sound heard) (position : Nat) (reason : String) :
    (w.step (.breakOff position reason)).Sound heard := by
  rcases w.step_breakOff position reason with ⟨heq, hsilent⟩ | ⟨e, message, he, hends, heq⟩ <;>
    rw [heq]
  · refine ⟨h.kept, h.steady, fun hopen => (h.current hopen).drop ?_⟩
    exact filter_eraseIdx_of_neg fun e he => Errand.plans_of_breakOff? _ (hsilent e he)
  · exact h.ending he hends

/-- **Every move keeps the invariant.** -/
theorem Sound.step (h : w.Sound heard) (m : Move) : (w.step m).Sound (w.hears heard m) := by
  cases m with
  | edit e => exact h.edit e
  | write => exact h.write
  | issue conditions matchAll => exact h.issue conditions matchAll
  | clear => exact h.clear
  | close => exact h.close
  | setOrder order => exact h.setOrder order
  | resort => exact h.resort
  | materialize start stop => exact h.materialize start stop
  | proceed position => exact h.proceed position
  | deliver position => exact h.deliver position
  | breakOff position reason => exact h.breakOff position reason
  | receive => exact h.receive

/-- **The invariant holds at all times.** -/
theorem Occurs.sound (h : w.Occurs) : ∃ heard, w.Sound heard := by
  obtain ⟨corpus, settings, moves, hgrown, rfl⟩ := h
  induction moves using List.reverseRecOn with
  | nil => exact ⟨[], sound_opening hgrown settings⟩
  | append_singleton moves m ih =>
    obtain ⟨heard, hsound⟩ := ih
    rw [run_snoc]
    exact ⟨_, hsound.step m⟩

end LiveSearch.Watch
