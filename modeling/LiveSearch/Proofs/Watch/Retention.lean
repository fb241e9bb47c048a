import LiveSearch.Proofs.Watch.Agreement
import LiveSearch.Proofs.Watch.Carrying

/-!
# What becomes of the hits that a query returns

A query is issued, it is answered with a visible hit for a reference, and from then on the store
keeps a visible item under this reference (`Watch.Inquiry.Returns`). Is the hit shown, and does it
stay?

It is not enough that nothing has removed the item since. A batch that was published before the
query was issued may be received while the query runs, and is then replayed over its hits, or after
the query was answered, and is then applied to them: in both cases it can take a hit away that the
query has just found. **This is the only way in which such a hit is lost**
(`Watch.Inquiry.mem_refs_final`): it is shown exactly if the last word on its reference that was
received while the query ran is no removal, and it stays exactly as long as no batch removes it that
is received later.

The proof follows the batches. Those that wait for a plan will be applied in the order in which they
were received, so at any time those that were received are those that were applied, in front, and
those that wait (`Watch.Fate`).
-/

namespace LiveSearch.Watch

variable {ref : Reference} {first news more : List (List Event)} {w w' w'' : Watch}

/-! ### The fate of a hit -/

/-- **The fate of the hit of a reference**, which was there or was not there when nothing was
waiting, after the batches of `news` have been received: if it is still there, those of them that
were applied have spared it, and if it has gone, one of them has removed it. -/
structure Fate (ref : Reference) (w w' : Watch) (news : List (List Event)) : Prop where
  /-- The session is not closed. -/
  isOpen : w'.session.phase ≠ .closed
  /-- No lookup misses the reference. -/
  finds : w'.Finds ref
  /-- What was applied stood in front, and has spared the hit. -/
  kept : ref ∈ w'.session.results.refs → ref ∈ w.session.results.refs ∧
    ∃ applied, news = applied ++ w'.waiting ∧ Spares ref applied
  /-- Something that was received has removed the hit. -/
  lost : ref ∉ w'.session.results.refs → ref ∈ w.session.results.refs → ¬Spares ref news

namespace Fate

/-- At first nothing has been received. -/
theorem start (hopen : w.session.phase ≠ .closed) (hfinds : w.Finds ref)
    (hwaiting : w.waiting = []) : Fate ref w w [] :=
  ⟨hopen, hfinds, fun hin => ⟨hin, [], by rw [hwaiting, List.append_nil], fun _ hb => by cases hb⟩,
    fun hout hin => absurd hin hout⟩

/-- A move carries the hit one step further. -/
theorem step (h : Fate ref w w' news) (hcarries : Carries ref first more w' w'')
    (hopen : w''.session.phase ≠ .closed) : Fate ref w w'' (news ++ more) := by
  -- where the hit is there, there are hits, and no batch has been dropped
  have hwaiting : ref ∈ w'.session.results.refs → w'.waiting ++ more = first ++ w''.waiting := by
    intro hin
    obtain ⟨x, hx, -⟩ := ResultSet.mem_refs.mp hin
    exact hcarries.waiting (List.ne_nil_of_mem hx)
  refine ⟨hopen, hcarries.finds, fun hin => ?_, fun hout hstart => ?_⟩
  · obtain ⟨hbefore, hspared⟩ := hcarries.refs.mp hin
    obtain ⟨hstart, applied, rfl, hkept⟩ := h.kept hbefore
    refine ⟨hstart, applied ++ first, ?_, spares_append.mpr ⟨hkept, hspared⟩⟩
    rw [List.append_assoc, hwaiting hbefore, List.append_assoc]
  · by_cases hbefore : ref ∈ w'.session.results.refs
    -- it has gone just now, so one of the batches that were applied has removed it
    · obtain ⟨-, applied, rfl, -⟩ := h.kept hbefore
      rw [List.append_assoc, hwaiting hbefore, spares_append, spares_append]
      rintro ⟨-, hspared, -⟩
      exact hout (hcarries.refs.mpr ⟨hbefore, hspared⟩)
    · rw [spares_append]
      rintro ⟨hspared, -⟩
      exact h.lost hbefore hstart hspared

end Fate

/-- **The fate of a hit along a run** in which the hits are of one generation, and the store always
has an item for it. -/
theorem fate_run (hoccurs : w.Occurs) (hopen : w.session.phase ≠ .closed) (hfinds : w.Finds ref)
    (hwaiting : w.waiting = []) (moves : List Move)
    (hstored : ∀ part, part <+: moves → ∃ item, (w.run part).corpus.store.resolve ref = .ok item)
    (hsame : (w.run moves).session.results.generation = w.session.results.generation) :
    Fate ref w (w.run moves) (w.received moves) := by
  induction moves using List.reverseRecOn with
  | nil => exact .start hopen hfinds hwaiting
  | append_singleton moves m ih =>
    have hbefore := (w.le_run moves).2
    have hstep := (w.run moves).follows_step m
    rw [run_snoc] at hsame ⊢
    have hafter := hstep.generation
    have hmoves : (w.run moves).session.results.generation = w.session.results.generation := by
      omega
    have hlast : ((w.run moves).step m).session.results.generation =
        (w.run moves).session.results.generation := by
      omega
    have hfate := ih (fun part hpart => hstored part (hpart.trans (List.prefix_append _ _))) hmoves
    obtain ⟨heard, hsound⟩ := (hoccurs.run moves).sound
    obtain ⟨item, hitem⟩ := hstored moves (List.prefix_append _ _)
    obtain ⟨first, hcarries⟩ := carries_step hsound hfate.isOpen hitem hfate.finds m hlast
    rw [received_snoc]
    exact hfate.step hcarries (hstep.isOpen hfate.isOpen hlast)

/-! ### A query and its answer -/

/-- **A query and its answer**: where it is issued, what happens until its answer is delivered, and
what happens from then on. -/
structure Inquiry where
  /-- Where the query is issued. -/
  start : Watch
  conditions : List Condition
  matchAll : Bool
  /-- What happens until the answer is delivered. -/
  before : List Move
  /-- The place of the answer among the work. -/
  position : Nat
  /-- What happens from then on. -/
  after : List Move

namespace Inquiry

variable {q : Inquiry}

/-- The watch where the query has been issued. -/
def issued (q : Inquiry) : Watch :=
  q.start.step (.issue q.conditions q.matchAll)

/-- The watch where the answer is about to be delivered. -/
def ready (q : Inquiry) : Watch :=
  q.issued.run q.before

/-- The watch where the answer has been delivered. -/
def answered (q : Inquiry) : Watch :=
  q.ready.step (.deliver q.position)

/-- The watch in the end. -/
def final (q : Inquiry) : Watch :=
  q.answered.run q.after

/-- **The query returns a visible hit for a reference**, and from then on the store has a visible
item there, and no other hits take the place of those that the query has returned. -/
structure Returns (q : Inquiry) (ref : Reference) : Prop where
  /-- The query is issued in a watch that can occur. -/
  occurs : q.start.Occurs
  /-- It is issued successfully, and no other query is issued before it is answered. -/
  latest : ∃ running, q.start.session.issue q.conditions = .ok running ∧
    q.ready.session.sequence = running.sequence
  /-- It has not been given up. -/
  running : q.ready.session.phase = .running
  /-- The answer has a visible hit for the reference. -/
  hit : ∃ kept, q.ready.errands[q.position]? =
    some (.answered q.ready.session.sequence kept []) ∧
      ∃ hit ∈ kept, hit.ref = ref ∧ hit.state.isVisible = true
  /-- From then on the store has a visible item there. -/
  stored : ∀ moves, moves <+: q.after →
    ∃ item, (q.answered.run moves).corpus.store.resolve ref = .ok item ∧ item.isVisible = true
  /-- The hits are of the same generation in the end. -/
  same : q.final.session.results.generation = q.answered.session.results.generation

namespace Returns

/-- What was heard when the answer is delivered is what was received since the query was issued. -/
theorem sound_ready (h : q.Returns ref) :
    q.ready.Sound (q.issued.received q.before).flatten := by
  obtain ⟨heard, hsound⟩ := h.occurs.sound
  obtain ⟨running, hissue, hlatest⟩ := h.latest
  have hissued := hsound.step (.issue q.conditions q.matchAll)
  have hsequence : q.issued.session.sequence = running.sequence := by
    rw [issued, Watch.step, hissue]
  have hnothing : q.start.hears heard (.issue q.conditions q.matchAll) = [] := by
    rw [hears, hissue]
    rfl
  rw [hnothing] at hissued
  exact Sound.run (w := q.issued) hissued q.before (hlatest.trans hsequence.symm)

/-- The store does not change when the answer is delivered. -/
theorem word_ready (h : q.Returns ref) : q.ready.corpus.store.word ref ≠ .remove := by
  obtain ⟨kept, hkept, -⟩ := h.hit
  obtain ⟨item, hitem, hvisible⟩ := h.stored [] (List.nil_prefix)
  have hstore : q.answered.corpus.store = q.ready.corpus.store := by
    rw [answered, Watch.step, hkept]
    rfl
  rw [run_nil, hstore] at hitem
  rw [Store.word_eq_refresh_iff.mpr ⟨hitem, hvisible⟩]
  simp

/-- **The watch where the answer has been delivered.** The hit is shown exactly if the last word on
it that was received while the query ran is no removal; nothing waits, and nothing has been missed.
-/
theorem answered_spec (h : q.Returns ref) :
    (ref ∈ q.answered.session.results.refs ↔
        Event.lastWord? (q.issued.received q.before).flatten ref ≠ some .remove) ∧
      q.answered.session.phase ≠ .closed ∧ q.answered.Finds ref ∧ q.answered.waiting = [] := by
  have hsound := h.sound_ready
  have hcurrent := hsound.current (by rw [h.running]; decide)
  obtain ⟨kept, hkept, hit, hhit, href, hvisible⟩ := h.hit
  have hinstalls : Installs kept q.ready q.answered := by
    rw [answered, Watch.step, hkept]
    show Installs kept q.ready ((q.ready.without q.position).react (q.ready.session.complete
      q.ready.corpus.store.resolve q.ready.session.sequence (.ok kept)))
    rw [Session.complete_ok h.running]
    exact installs_react q.ready q.position kept
  have hopen : q.answered.session.phase ≠ .closed := by
    rw [hinstalls.phase]
    decide
  have hanswered : q.answered.Sound _ := hsound.step (.deliver q.position)
  refine ⟨?_, hopen, fun e he hmisses => ?_,
    ((hanswered.current hopen).waiting_eq_nil hanswered.kept hinstalls.planning).2⟩
  · have hreturned : ref ∈ (q.ready.session.results.replace (Hit.classify kept)).refs :=
      ResultSet.mem_refs_replace.mpr ⟨_, List.mem_map.mpr ⟨hit, hhit, rfl⟩, hvisible, href⟩
    rw [hinstalls.results, Session.mem_refs_replayOver (hcurrent.held h.running)
      hsound.steady.faithful h.word_ready]
    exact ⟨And.right, fun hspared => ⟨hreturned, hspared⟩⟩
  · rcases hinstalls.errands e he with hold | ⟨refs, rfl⟩
    -- an older lookup is for older hits
    · have hfits := hcurrent.errands e hold
      have hgeneration := hinstalls.generation
      cases e with
      | lookup generation rest found missing =>
        obtain ⟨hg, -⟩ := hmisses
        have hle : generation ≤ q.ready.session.results.generation := hfits.1
        omega
      | _ => cases hmisses
    -- a new one has missed nothing yet
    · obtain ⟨-, hmem⟩ := hmisses
      cases hmem

end Returns

/-- **What becomes of a hit that a query returns**, where the store has kept its item. It is shown
exactly if the last word on it that was received while the query ran is no removal. If it is shown
and no batch removes it that is received afterwards, it stays; and if it is still there when no plan
is under way, then no batch has removed it. -/
theorem mem_refs_final (q : Inquiry) (h : q.Returns ref) :
    (ref ∈ q.answered.session.results.refs ↔
        Event.lastWord? (q.issued.received q.before).flatten ref ≠ some .remove) ∧
      (ref ∈ q.answered.session.results.refs →
        (∀ batch ∈ q.answered.received q.after, Event.lastWord? batch ref ≠ some .remove) →
        ref ∈ q.final.session.results.refs) ∧
      (q.final.session.planning = none → ref ∈ q.final.session.results.refs →
        ref ∈ q.answered.session.results.refs ∧
          ∀ batch ∈ q.answered.received q.after, Event.lastWord? batch ref ≠ some .remove) := by
  obtain ⟨hshown, hopen, hfinds, hwaiting⟩ := h.answered_spec
  have hready : q.ready.Occurs := (h.occurs.run [.issue q.conditions q.matchAll]).run q.before
  have hoccurs : q.answered.Occurs := hready.run [.deliver q.position]
  have hfate : Fate ref q.answered q.final (q.answered.received q.after) := by
    refine fate_run hoccurs hopen hfinds hwaiting q.after (fun moves hmoves => ?_) h.same
    obtain ⟨item, hitem, -⟩ := h.stored moves hmoves
    exact ⟨item, hitem⟩
  refine ⟨hshown, fun hin hspared => ?_, fun hnone hin => ?_⟩
  · by_contra hout
    exact hfate.lost hout hin hspared
  · obtain ⟨heard, hsound⟩ := (hoccurs.run q.after).sound
    have hnil : q.final.waiting = [] :=
      ((hsound.current hfate.isOpen).waiting_eq_nil hsound.kept hnone).2
    obtain ⟨hstart, applied, heq, hspared⟩ := hfate.kept hin
    rw [hnil, List.append_nil] at heq
    rw [heq]
    exact ⟨hstart, hspared⟩

/-! ### A hit that is lost -/

/-- An item is updated without interruption. -/
def updating (item : Item) : List Move :=
  [.edit (.update item), .write, .write, .write]

theorem run_updating (w : Watch) {result : Except Failure Nat} (hdone : w.change = .done result)
    (item : Item) :
    w.run (updating item) =
      { w with
        corpus :=
          { store := w.corpus.store.put item
            index := (w.corpus.index.enqueueAll (Index.replacement item)).commit
            bus := (w.corpus.bus.publish .news [Event.updated item]).1 }
        change := .done (.ok 1) } := by
  obtain ⟨corpus, change, session, errands⟩ := w
  obtain rfl : change = _ := hdone
  rfl

/-- The item while it is hidden. -/
def hiddenItem : Item :=
  { unreadItem with state := .hidden }

/-- An item is hidden and shown again while a session does not listen. Then the session asks for it,
is answered, and receives the first of the two batches. -/
def belated : Inquiry :=
  { start := ((opening (solitary unreadItem) { eagerResolveCount := 0 }).run
      (updating hiddenItem)).run (updating unreadItem)
    conditions := [Condition.arrived]
    matchAll := true
    before := [.proceed 0]
    position := 0
    after := [.receive] }

/-- The watch where the item has been hidden and shown again. -/
theorem start_belated :
    belated.start =
      { opening (solitary unreadItem) { eagerResolveCount := 0 } with
        corpus :=
          { store := (((({} : Store).put unreadItem).put hiddenItem).put unreadItem)
            index := (((Index.mk [[{ document := Document.ofItem unreadItem }]] []).enqueueAll
              (Index.replacement hiddenItem)).commit.enqueueAll
                (Index.replacement unreadItem)).commit
            bus := ((((({} : Bus).subscribe .news).1.publish .news
              [Event.updated hiddenItem]).1).publish .news [Event.updated unreadItem]).1 }
        change := .done (.ok 1) } := by
  rw [belated, run_updating (opening (solitary unreadItem) { eagerResolveCount := 0 }) rfl,
    run_updating _ rfl]
  rfl

theorem ready_belated :
    belated.ready =
      { belated.start with
        session := (Session.fresh { eagerResolveCount := 0 } 0).begin
        errands := [.answered 1 [.ofItem unreadItem] []] } := by
  have hdocuments : belated.start.corpus.index.documents = [Document.ofItem unreadItem] := by
    rw [start_belated, Index.documents_commit_enqueueAll rfl, Index.foldl_replacement,
      Index.documents_commit_enqueueAll rfl, Index.foldl_replacement]
    simp [Document.ofItem, hiddenItem, Index.documents, Index.entries]
  exact run_issue_arrived (by rw [start_belated]; rfl) (by rw [start_belated]; rfl) rfl hdocuments
    (by decide) rfl

theorem answered_belated :
    belated.answered =
      { belated.start with
        session :=
          { Session.fresh { eagerResolveCount := 0 } 0 with
            results := { hits := Hit.classify [.ofItem unreadItem], generation := 1 }
            sequence := 1
            phase := .completed }
        errands := [] } := by
  rw [answered, ready_belated]
  exact step_deliver_arrived rfl rfl rfl rfl

/-- The batch that hid the item is received after the answer. -/
theorem received_belated :
    belated.answered.received belated.after = [[Event.updated hiddenItem]] := by
  rw [answered_belated, start_belated]
  rfl

theorem session_final_belated :
    belated.final.session =
      { belated.answered.session with
        results := (reconcile [Event.updated hiddenItem] belated.answered.session.results).1 } ∧
      belated.final.corpus.store = belated.start.corpus.store := by
  rw [final, answered_belated, start_belated]
  exact ⟨rfl, rfl⟩

theorem returns_belated : belated.Returns unreadItem.ref := by
  have hstore : belated.start.corpus.store.resolve unreadItem.ref = .ok unreadItem := by
    rw [start_belated]
    exact (Store.resolve_put _ _ _).trans (if_pos rfl)
  refine ⟨?_, ⟨(Session.fresh { eagerResolveCount := 0 } 0).begin, ?_, ?_⟩, ?_,
    ⟨[.ofItem unreadItem], ?_, .ofItem unreadItem, by simp, rfl, rfl⟩, fun moves hmoves => ?_, ?_⟩
  · exact Occurs.run ⟨_, _, _, grown_solitary unreadItem, rfl⟩ _
  · rw [start_belated]
    rfl
  · rw [ready_belated]
  · rw [ready_belated]
    rfl
  · rw [ready_belated]
    rfl
  · refine ⟨unreadItem, ?_, rfl⟩
    rcases List.prefix_cons_iff.mp hmoves with rfl | ⟨rest, rfl, hrest⟩
    · rw [run_nil, answered_belated]
      exact hstore
    · obtain rfl := List.prefix_nil.mp hrest
      have hfinal : belated.answered.run [.receive] = belated.final := rfl
      rw [hfinal, session_final_belated.2]
      exact hstore
  · rw [session_final_belated.1]
    exact generation_reconcile _ _

/-- **A hit is lost**: the item is in the store and the query has found it, but the batch that hid
it before is received afterwards. -/
theorem mem_refs_final_of_belated :
    belated.Returns unreadItem.ref ∧ unreadItem.ref ∈ belated.answered.session.results.refs ∧
      unreadItem.ref ∉ belated.final.session.results.refs := by
  obtain ⟨hshown, -, hstays⟩ := mem_refs_final belated returns_belated
  have hnone : belated.final.session.planning = none := by
    rw [session_final_belated.1, answered_belated]
    rfl
  refine ⟨returns_belated, hshown.mpr ?_, fun hin => ?_⟩
  · show Event.lastWord? [] _ ≠ _
    simp
  · refine (hstays hnone hin).2 [Event.updated hiddenItem] ?_ rfl
    rw [received_belated]
    simp

end Inquiry

end LiveSearch.Watch
