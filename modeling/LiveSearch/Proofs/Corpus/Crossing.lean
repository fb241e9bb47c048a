import LiveSearch.Proofs.Corpus.Overlap

/-!
# Where overlapping changes leave a corpus

When overlapping changes are done, store, index and announcements each have of a reference what the
change that came to them **last** has left there (`Overlap.ends`). Where the same change came last
to the store and to the index the two agree, and likewise for the store and what was announced; this
is so for every reference that only one of the changes has written. Nothing makes the orders the
same, though: only the writing of the index is done under a lock. Where two changes cross, the index
goes on showing a version that the store does not hold (`Overlap.ends_of_crossing`).
-/

namespace LiveSearch

/-- The documents with a reference are those of what is stored there. -/
theorem InStep.filter_documents {contents : Reference → Option Item} {s : Store}
    {documents : List Document} (h : InStep contents s documents) (ref : Reference) :
    documents.filter (·.ref = ref) = Index.documentsFor (contents ref) := by
  have hmem : ∀ d, d ∈ documents.filter (·.ref = ref) ↔
      ∃ item, contents ref = some item ∧ d = Document.ofItem item := by
    intro d
    rw [List.mem_filter, h.reflects, decide_eq_true_iff]
    constructor
    · rintro ⟨⟨ref', item, hitem, rfl⟩, href⟩
      have hown : item.ref = ref' := h.keyed ref' item hitem
      obtain rfl : ref' = ref := hown.symm.trans href
      exact ⟨item, hitem, rfl⟩
    · rintro ⟨item, hitem, rfl⟩
      exact ⟨⟨ref, item, hitem, rfl⟩, h.keyed ref item hitem⟩
  have hnodup : (documents.filter (·.ref = ref)).Nodup := (List.Nodup.of_map _ h.distinct).filter _
  cases hcontents : contents ref with
  | none =>
    refine List.eq_nil_iff_forall_not_mem.mpr fun d hd => ?_
    obtain ⟨item, hitem, -⟩ := (hmem d).mp hd
    rw [hcontents] at hitem
    cases hitem
  | some item =>
    refine List.perm_singleton.mp ?_
    refine (List.perm_ext_iff_of_nodup hnodup (List.nodup_singleton _)).mpr fun d => ?_
    rw [hmem, hcontents, List.mem_singleton]
    constructor
    · rintro ⟨item', hitem, rfl⟩
      rw [Option.some.inj hitem]
    · rintro rfl
      exact ⟨item, rfl, rfl⟩

namespace Overlap

variable {ι : Type} [DecidableEq ι] {c : Corpus} {id : Nat} {edits : ι → Edit}
  {o : Overlap ι} {i : ι}
  {ref : Reference}

/-! ### Who came last -/

/-- **What a change has left** under a reference, as far as it is concerned. -/
def left (o : Overlap ι) (i : ι) (ref : Reference) : Option Item :=
  Write.leave (total o.log i).writes ref

/-- A change has written a reference. -/
def Writes (o : Overlap ι) (i : ι) (ref : Reference) : Prop :=
  (total o.log i).writes.any (·.ref = ref) = true

/-- The change that came last to the store with a reference. -/
def lastToStore (o : Overlap ι) (ref : Reference) : Option ι :=
  last? (fun d => d.writes.any (·.ref = ref)) o.log

/-- The change that came last to the index with a reference. -/
def lastToIndex (o : Overlap ι) (ref : Reference) : Option ι :=
  last? (fun d => d.operations.any (·.ref = ref)) o.log

/-- The change that was last to announce something about a reference. -/
def lastToAnnounce (o : Overlap ι) (ref : Reference) : Option ι :=
  last? (fun d => d.events.any (·.ref = ref)) o.log

/-- Nothing is left to do. -/
def Done (o : Overlap ι) : Prop :=
  ∀ i, ∃ result, o.changes i = .done result

/-- **What a change has done** in the end. -/
theorem Logged.total_of_done (h : Logged c id edits o) (hdone : o.Done) (i : ι) :
    Write.Told (total o.log i).writes (total o.log i).news ∧
      (total o.log i).operations = (total o.log i).writes.flatMap Write.operations ∧
      (total o.log i).events = (total o.log i).news := by
  obtain ⟨result, hresult⟩ := hdone i
  have hkept := h.kept i
  rw [hresult] at hkept
  exact hkept.of_done

theorem writes_of_lastToStore (hlast : o.lastToStore ref = some i) : o.Writes i ref :=
  any_of_last? hlast

theorem not_writes_of_lastToStore (hlast : o.lastToStore ref = none) (i : ι) : ¬o.Writes i ref :=
  not_any_of_last? hlast i

/-- A change comes to the index with what it has written. -/
theorem Logged.writes_iff (h : Logged c id edits o) (hdone : o.Done) :
    o.Writes i ref ↔ (total o.log i).operations.any (·.ref = ref) = true := by
  rw [(h.total_of_done hdone i).2.1, Write.any_operations, Writes]

theorem Logged.writes_of_lastToIndex (h : Logged c id edits o) (hdone : o.Done)
    (hlast : o.lastToIndex ref = some i) : o.Writes i ref :=
  (h.writes_iff hdone).mpr (any_of_last? hlast)

theorem Logged.not_writes_of_lastToIndex (h : Logged c id edits o) (hdone : o.Done)
    (hlast : o.lastToIndex ref = none) (i : ι) : ¬o.Writes i ref := fun hw =>
  not_any_of_last? hlast i ((h.writes_iff hdone).mp hw)

/-- A change announces what it has written. -/
theorem Logged.writes_of_lastToAnnounce (h : Logged c id edits o) (hdone : o.Done)
    (hlast : o.lastToAnnounce ref = some i) : o.Writes i ref := by
  obtain ⟨htold, -, hevents⟩ := h.total_of_done hdone i
  have hany : (total o.log i).events.any (·.ref = ref) = true := any_of_last? hlast
  rw [hevents] at hany
  exact htold.any_of_any hany

/-! ### What the last one leaves -/

/-- **The store has what the last change to write it has left.** -/
theorem Logged.get_eq (h : Logged c id edits o) (ref : Reference) :
    o.corpus.store.get ref =
      ((o.lastToStore ref).map fun i => .ok (o.left i ref)).getD (c.store.get ref) := by
  rw [h.store, Write.get_allToStore, last?_writes]
  cases hlast : o.lastToStore ref with
  | none =>
    rw [lastToStore] at hlast
    rw [hlast]
    rfl
  | some i =>
    have hwrites : (Write.last? (total o.log i).writes ref).isSome = true :=
      (Write.isSome_last? _ ref).trans (writes_of_lastToStore hlast)
    obtain ⟨w, hw⟩ := Option.isSome_iff_exists.mp hwrites
    rw [lastToStore] at hlast
    rw [hlast, Option.bind_some, hw, Option.map_some, Option.map_some, left, Write.leave, hw]
    rfl

/-- **The index has what the last change to come to it has left.** -/
theorem Logged.documents_eq (h : Logged c id edits o) (hdone : o.Done) (ref : Reference) :
    o.corpus.index.documents.filter (·.ref = ref) =
      ((o.lastToIndex ref).map fun i => Index.documentsFor (o.left i ref)).getD
        (c.index.documents.filter (·.ref = ref)) := by
  have hlast := foldl_of_last (l := o.log)
    (f := fun ds entry => entry.2.operations.foldl Index.carryOut ds)
    (List.filter (·.ref = ref)) (fun entry => entry.2.operations.any (·.ref = ref) = true)
    (fun entry => Index.documentsFor (o.left entry.1 ref)) ?_ c.index.documents
  · rw [h.documents, hlast, lastToIndex, last?, Option.map_map]
    simp only [Bool.decide_eq_true]
    rfl
  · rintro ds ⟨i, d⟩ hd
    rcases (h.whole i d hd).1 with hnone | hall
    · simp [hnone]
    · have hops := hall.trans (h.total_of_done hdone i).2.1
      rw [hops, Write.documents_operations, Write.any_operations, ← Write.isSome_last?, left,
        Write.leave]
      cases Write.last? (total o.log i).writes ref <;> rfl

/-- **What was announced amounts to what the last change to announce something has left.** -/
theorem Logged.recordAll_eq (h : Logged c id edits o) (hdone : o.Done) (ref : Reference) :
    Event.recordAll (o.corpus.bus.queue id).flatten ref =
      ((o.lastToAnnounce ref).map fun i => o.left i ref).getD
        (Event.recordAll (c.bus.queue id).flatten ref) := by
  have hlast := foldl_of_last (l := o.log)
    (f := fun m entry => entry.2.events.foldl Event.record m)
    (fun m : Reference → Option Item => m ref)
    (fun entry => entry.2.events.any (·.ref = ref) = true)
    (fun entry => o.left entry.1 ref) ?_ (Event.recordAll (c.bus.queue id).flatten)
  · rw [h.announced, Event.recordAll, List.foldl_append, List.foldl_flatMap, ← Event.recordAll,
      hlast, lastToAnnounce, last?, Option.map_map]
    simp only [Bool.decide_eq_true]
    rfl
  · rintro m ⟨i, d⟩ hd
    obtain ⟨htold, -, hevents⟩ := h.total_of_done hdone i
    rcases (h.whole i d hd).2 with hnone | hall
    · simp [hnone]
    · rw [hall, hevents]
      exact htold.record m ref

/-- **What nobody announces has not changed** in the store. -/
theorem Logged.get_of_silent (h : Logged c id edits o) (hdone : o.Done)
    (hsilent : o.lastToAnnounce ref = none) : o.corpus.store.get ref = c.store.get ref := by
  rw [h.store]
  refine Write.get_allToStore_of_silent fun e he href => ?_
  rw [← h.news, List.mem_flatMap] at he
  obtain ⟨⟨i, d⟩, hd, hnews⟩ := he
  -- all news of a change are announced when it is done
  have hany : (total o.log i).news.any (·.ref = ref) = true :=
    any_own.mpr ⟨d, hd, List.any_eq_true.mpr ⟨e, hnews, decide_eq_true href⟩⟩
  rw [← (h.total_of_done hdone i).2.2] at hany
  exact not_any_of_last? hsilent i hany

/-! ### In the end -/

/-- **The index shows what is stored** under a reference. -/
def Shows (c : Corpus) (ref : Reference) : Prop :=
  ∃ item? : Option Item, c.store.get ref = .ok item? ∧
    c.index.documents.filter (·.ref = ref) = Index.documentsFor item?

/-- **Where some changes leave a reference** when all of them are done. -/
structure Ends (id : Nat) (edits : ι → Edit) (o : Overlap ι) (ref : Reference) : Prop where
  /-- A change that has not failed has made the writes that were asked for. -/
  asked : ∀ i count, o.changes i = .done (.ok count) →
    Change.Asked (edits i) (total o.log i).writes
  /-- The store has what the last change to write it has left. -/
  stored : ∀ i, o.lastToStore ref = some i → o.corpus.store.get ref = .ok (o.left i ref)
  /-- The index has what the last change to come to it has left. -/
  indexed : ∀ i, o.lastToIndex ref = some i →
    o.corpus.index.documents.filter (·.ref = ref) = Index.documentsFor (o.left i ref)
  /-- What was announced amounts to what the last change to announce something has left. -/
  told : ∀ i, o.lastToAnnounce ref = some i →
    Event.recordAll (o.corpus.bus.queue id).flatten ref = o.left i ref
  /-- If the same change was the last in both, the index shows what is stored. -/
  shows : o.lastToIndex ref = o.lastToStore ref → Shows o.corpus ref
  /-- If the same change was the last in both, or nothing was announced, what was announced is what
  is stored. -/
  tells : o.lastToAnnounce ref = o.lastToStore ref ∨ o.lastToAnnounce ref = none →
    o.corpus.store.get ref = .ok (Event.recordAll (o.corpus.bus.queue id).flatten ref)
  /-- A change that is alone in writing the reference is the last one everywhere. -/
  alone : (∀ i j, o.Writes i ref → o.Writes j ref → i = j) →
    o.lastToIndex ref = o.lastToStore ref ∧
      (o.lastToAnnounce ref = o.lastToStore ref ∨ o.lastToAnnounce ref = none)

theorem Logged.shows (h : Logged c id edits o) (hstart : c.Followed id) (hdone : o.Done)
    (hsame : o.lastToIndex ref = o.lastToStore ref) : Shows o.corpus ref := by
  have hget := h.get_eq ref
  have hdocuments := h.documents_eq hdone ref
  rw [hsame] at hdocuments
  cases hlast : o.lastToStore ref with
  | none =>
    rw [hlast] at hget hdocuments
    exact ⟨_, hget.trans (hstart.inStep.get ref),
      hdocuments.trans (hstart.inStep.filter_documents ref)⟩
  | some i =>
    rw [hlast] at hget hdocuments
    exact ⟨_, hget, hdocuments⟩

theorem Logged.tells (h : Logged c id edits o) (hstart : c.Followed id) (hdone : o.Done)
    (hsame : o.lastToAnnounce ref = o.lastToStore ref ∨ o.lastToAnnounce ref = none) :
    o.corpus.store.get ref = .ok (Event.recordAll (o.corpus.bus.queue id).flatten ref) := by
  have htold := h.recordAll_eq hdone ref
  cases hlast : o.lastToAnnounce ref with
  | none =>
    rw [hlast] at htold
    rw [htold, h.get_of_silent hdone hlast]
    exact hstart.inStep.get ref
  | some i =>
    rw [hlast] at htold hsame
    have hstore : o.lastToStore ref = some i := by
      rcases hsame with hsame | hnone
      · exact hsame.symm
      · cases hnone
    have hget := h.get_eq ref
    rw [hstore] at hget
    rw [htold]
    exact hget

theorem Logged.alone (h : Logged c id edits o) (hdone : o.Done)
    (honly : ∀ i j, o.Writes i ref → o.Writes j ref → i = j) :
    o.lastToIndex ref = o.lastToStore ref ∧
      (o.lastToAnnounce ref = o.lastToStore ref ∨ o.lastToAnnounce ref = none) := by
  cases hstore : o.lastToStore ref with
  | none =>
    have hnobody := not_writes_of_lastToStore hstore
    constructor
    · cases hindex : o.lastToIndex ref with
      | none => rfl
      | some j => exact absurd (h.writes_of_lastToIndex hdone hindex) (hnobody j)
    · cases hannounce : o.lastToAnnounce ref with
      | none => exact Or.inl rfl
      | some j => exact absurd (h.writes_of_lastToAnnounce hdone hannounce) (hnobody j)
  | some i =>
    have hwrites : o.Writes i ref := writes_of_lastToStore hstore
    constructor
    · cases hindex : o.lastToIndex ref with
      | none => exact absurd hwrites (h.not_writes_of_lastToIndex hdone hindex i)
      | some j => rw [honly j i (h.writes_of_lastToIndex hdone hindex) hwrites]
    · cases hannounce : o.lastToAnnounce ref with
      | none => exact Or.inr rfl
      | some j =>
        rw [honly j i (h.writes_of_lastToAnnounce hdone hannounce) hwrites]
        exact Or.inl rfl

/-- **Where overlapping changes leave a corpus.** Let store, index and announcements be in step, let
any changes begin, and let their steps be taken in any order until all of them are done. Then each
of the three has of every reference what the change that came to it last has left there, so they
agree where the same change came last. -/
theorem ends (hstart : c.Followed id) (edits : ι → Edit) (schedule : List ι)
    (hdone : ((begin c edits).run schedule).Done) (ref : Reference) :
    Ends id edits ((begin c edits).run schedule) ref := by
  have h : Logged c id edits ((begin c edits).run schedule) :=
    (Logged.begin hstart edits).run schedule
  refine ⟨fun i count hcount => ?_, fun i hlast => ?_, fun i hlast => ?_, fun i hlast => ?_,
    h.shows hstart hdone, h.tells hstart hdone, h.alone hdone⟩
  · have hkept := h.kept i
    rw [hcount] at hkept
    exact hkept.asked_of_done
  · rw [h.get_eq, hlast]
    rfl
  · rw [h.documents_eq hdone, hlast]
    rfl
  · rw [h.recordAll_eq hdone, hlast]
    rfl

/-- An item is hidden while it is added once more: being hidden is the last that happens to it in the
store, but the first in the index, which goes on showing it. And an item is deleted while a new
version of it is added: the deletion comes first to store and index, but is announced last, so
whoever listens knows of no item where one is stored. -/
theorem ends_of_crossing :
    let bus := (Bus.subscribe {} .news).1
    let item : Item :=
      { ref := ⟨1⟩, feed := "f", guid := "a", title := "A", state := .unread, received := 5 }
    let hidden : Item := { item with state := .hidden }
    let c := Corpus.edited { bus } [.add [item]]
    let edits : Bool → Edit := fun first => if first then .add [item] else .update hidden
    let crossed := (begin c edits).run [true, false, false, true, true, false]
    let renamed : Item := { item with title := "B" }
    let edits' : Bool → Edit := fun first => if first then .delete [⟨1⟩] else .update renamed
    let belated := (begin c edits').run [true, true, true, false, false, false, true]
    (c.Followed 0 ∧ crossed.Done ∧ belated.Done) ∧
      (Ends 0 edits crossed ⟨1⟩ ∧ crossed.corpus.store.get ⟨1⟩ = .ok (some hidden) ∧
        crossed.corpus.index.documents.filter (·.ref = ⟨1⟩) = [Document.ofItem item] ∧
        ¬Shows crossed.corpus ⟨1⟩) ∧
      Ends 0 edits' belated ⟨1⟩ ∧ belated.corpus.store.get ⟨1⟩ = .ok (some renamed) ∧
        Event.recordAll (belated.corpus.bus.queue 0).flatten ⟨1⟩ = none := by
  intro bus item hidden c edits crossed renamed edits' belated
  have hlistens : bus.Listens 0 := Bus.listens_subscribe Bus.numbered_empty
  have hquiet : bus.queue 0 = [] := Bus.queue_subscribe Bus.numbered_empty
  have hstart : c.Followed 0 := Corpus.followed_edited hlistens hquiet [.add [item]]
  have hcrossed : crossed.Done := by
    intro i
    cases i <;> exact ⟨_, rfl⟩
  have hbelated : belated.Done := by
    intro i
    cases i <;> exact ⟨_, rfl⟩
  have hends := ends hstart edits [true, false, false, true, true, false] hcrossed ⟨1⟩
  have hends' := ends hstart edits' [true, true, true, false, false, false, true] hbelated ⟨1⟩
  have hget : crossed.corpus.store.get ⟨1⟩ = .ok (some hidden) := hends.stored false rfl
  have hdocuments : crossed.corpus.index.documents.filter (·.ref = ⟨1⟩) = [Document.ofItem item] :=
    hends.indexed true rfl
  have hnot : ¬Shows crossed.corpus ⟨1⟩ := by
    rintro ⟨item?, hstored, hshown⟩
    rw [hdocuments, ← Except.ok.inj (hget.symm.trans hstored)] at hshown
    -- the document of the hidden item has the number of another state
    have hstates : [item.state.code] = [hidden.state.code] :=
      congrArg (List.map Document.stateCode) hshown
    exact absurd hstates (by decide)
  have hget' : belated.corpus.store.get ⟨1⟩ = .ok (some renamed) := hends'.stored false rfl
  have htold : Event.recordAll (belated.corpus.bus.queue 0).flatten ⟨1⟩ = none :=
    hends'.told true rfl
  exact ⟨⟨hstart, hcrossed, hbelated⟩, ⟨hends, hget, hdocuments, hnot⟩, hends', hget', htold⟩

end Overlap

end LiveSearch
