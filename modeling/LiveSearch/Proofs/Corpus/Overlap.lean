import LiveSearch.Proofs.Corpus.Agreement
import LiveSearch.Proofs.Corpus.Deeds
import Mathlib.Logic.Function.Basic

/-!
# Changes that overlap

Several changes can be under way in one corpus, and their steps may come in any order. Writing the
store, writing the index and announcing are steps of their own, so two changes can come to the store
in one order, to the index in another, and announce in a third.

An **overlap** (`Overlap`) keeps a log of what was done, step by step. The log tells everything that
has become of the corpus (`Overlap.Logged`): what the store, the index and the announcements are is
what the deeds of the log make of them, one after the other, and the deeds of each change belong
together. This is so at every moment of every run (`Overlap.Logged.run`).
-/

namespace LiveSearch

/-- **Changes under way in one corpus**, with the log of what they have done. -/
structure Overlap (ι : Type) where
  /-- The corpus. -/
  corpus : Corpus
  /-- What is left to do of each change. -/
  changes : ι → Change
  /-- What was done, in order. -/
  log : List (ι × Deed) := []

namespace Overlap

variable {ι : Type} [DecidableEq ι]

/-! ### Logs -/

/-- The deeds of one change. -/
def own (log : List (ι × Deed)) (i : ι) : List Deed :=
  (log.filter (·.1 = i)).map (·.2)

/-- All that one change has done. -/
def total (log : List (ι × Deed)) (i : ι) : Deed :=
  Deed.total (own log i)

omit [DecidableEq ι] in
/-- The last change with a deed of some kind. -/
def last? (p : Deed → Bool) (log : List (ι × Deed)) : Option ι :=
  (log.reverse.find? fun entry => p entry.2).map (·.1)

variable {log : List (ι × Deed)} {p : Deed → Bool} {i j : ι} {d : Deed}

theorem own_concat (log : List (ι × Deed)) (j : ι) (d : Deed) (i : ι) :
    own (log ++ [(j, d)]) i = if j = i then own log i ++ [d] else own log i := by
  rw [own, List.filter_append, List.map_append, own]
  split
  · next h => simp [h]
  · next h => simp [h]

theorem total_concat (log : List (ι × Deed)) (j : ι) (d : Deed) (i : ι) :
    total (log ++ [(j, d)]) i = if j = i then (total log i).after d else total log i := by
  rw [total, own_concat, total]
  split
  · rw [Deed.total_concat]
  · rfl

theorem mem_own : d ∈ own log i ↔ (i, d) ∈ log := by
  simp [own]

omit [DecidableEq ι] in
theorem last?_concat (log : List (ι × Deed)) (j : ι) (d : Deed) :
    last? p (log ++ [(j, d)]) = if p d then some j else last? p log := by
  rw [last?, List.reverse_concat, List.find?_cons, last?]
  cases p d <;> rfl

section

variable {α : Type} {v : Deed → List α} {q : α → Bool}

/-- What one change has done is what its deeds have done. -/
theorem any_own : ((own log i).flatMap v).any q = true ↔
    ∃ d, (i, d) ∈ log ∧ (v d).any q = true := by
  rw [List.any_flatMap, List.any_eq_true]
  constructor
  · rintro ⟨d, hd, hq⟩
    exact ⟨d, mem_own.mp hd, hq⟩
  · rintro ⟨d, hd, hq⟩
    exact ⟨d, mem_own.mpr hd, hq⟩

/-- Who came last has come. -/
theorem any_of_last? (h : last? (fun d => (v d).any q) log = some i) :
    ((own log i).flatMap v).any q = true := by
  obtain ⟨entry, hentry, rfl⟩ := Option.map_eq_some_iff.mp h
  have hq : (v entry.2).any q = true := by simpa using List.find?_some hentry
  exact any_own.mpr ⟨entry.2, List.mem_reverse.mp (List.mem_of_find?_eq_some hentry), hq⟩

/-- If nobody came last, nobody has come. -/
theorem not_any_of_last? (h : last? (fun d => (v d).any q) log = none) (i : ι) :
    ¬((own log i).flatMap v).any q = true := by
  rw [last?, Option.map_eq_none_iff, List.find?_eq_none] at h
  intro hany
  obtain ⟨d, hd, hq⟩ := any_own.mp hany
  exact h (i, d) (List.mem_reverse.mpr hd) hq

end

/-- **The last write of all** is the last write of the change that came last to the store. -/
theorem last?_writes (log : List (ι × Deed)) (ref : Reference) :
    Write.last? (log.flatMap (·.2.writes)) ref =
      (last? (fun d => d.writes.any (·.ref = ref)) log).bind fun i =>
        Write.last? (total log i).writes ref := by
  induction log using List.reverseRecOn with
  | nil => rfl
  | append_singleton log entry ih =>
    obtain ⟨j, d⟩ := entry
    rw [List.flatMap_append, List.flatMap_singleton, Write.last?_append, last?_concat]
    by_cases hd : d.writes.any (·.ref = ref) = true
    · obtain ⟨w, hw⟩ := Option.isSome_iff_exists.mp ((Write.isSome_last? d.writes ref).trans hd)
      rw [if_pos hd, Option.bind_some, total_concat, if_pos rfl, Deed.after, Write.last?_append, hw,
        Option.some_or, Option.some_or]
    · have hnone : Write.last? d.writes ref = none := by
        rw [← Option.isNone_iff_eq_none, ← Option.not_isSome, Write.isSome_last?]
        simpa using hd
      have hsame : ∀ i, Write.last? (total (log ++ [(j, d)]) i).writes ref =
          Write.last? (total log i).writes ref := by
        intro i
        rw [total_concat]
        split
        · rw [Deed.after, Write.last?_append, hnone, Option.none_or]
        · rfl
      rw [if_neg hd, hnone, Option.none_or, ih]
      simp only [hsame]

/-- Either the old part or the new part of a list is empty, and what is in the old part is all of it
or nothing. -/
theorem eq_nil_or_append {α : Type} {x t y : List α} (hx : x = [] ∨ x = t) (ht : t = [] ∨ y = []) :
    x = [] ∨ x = t ++ y := by
  rcases ht with rfl | rfl
  · exact Or.inl (hx.elim id id)
  · rw [List.append_nil]
    exact hx

theorem eq_nil_or_append_self {α : Type} {t y : List α} (ht : t = [] ∨ y = []) :
    y = [] ∨ y = t ++ y := by
  rcases ht with rfl | hy
  · exact Or.inr rfl
  · exact Or.inl hy

/-! ### Taking steps -/

/-- Some changes begin. -/
def begin (c : Corpus) (edits : ι → Edit) : Overlap ι :=
  { corpus := c, changes := fun i => (edits i).change }

/-- **One change takes its next step.** -/
def step (o : Overlap ι) (i : ι) : Overlap ι :=
  { corpus := ((o.changes i).step o.corpus).1
    changes := Function.update o.changes i ((o.changes i).step o.corpus).2
    log := o.log ++ [(i, (o.changes i).deed o.corpus.store)] }

/-- The changes take steps, in some order. -/
def run (o : Overlap ι) (schedule : List ι) : Overlap ι :=
  schedule.foldl step o

variable {c : Corpus} {id : Nat} {edits : ι → Edit} {o : Overlap ι}

theorem log_step (o : Overlap ι) (i : ι) :
    (o.step i).log = o.log ++ [(i, (o.changes i).deed o.corpus.store)] := rfl

theorem changes_step (o : Overlap ι) (i j : ι) :
    (o.step i).changes j = if i = j then ((o.changes i).step o.corpus).2 else o.changes j := by
  show Function.update _ _ _ j = _
  split
  · next h => rw [h, Function.update_self]
  · next h => rw [Function.update_of_ne (Ne.symm h)]

/-- **The log tells what was done** since some edits began. -/
structure Logged (c : Corpus) (id : Nat) (edits : ι → Edit) (o : Overlap ι) : Prop where
  /-- Every change has come as far as its deeds. -/
  kept : ∀ i, Change.Kept (edits i) (total o.log i) (o.changes i)
  /-- What a change does in the index and what it announces is done in one deed each. -/
  whole : ∀ i d, (i, d) ∈ o.log →
    (d.operations = [] ∨ d.operations = (total o.log i).operations) ∧
      (d.events = [] ∨ d.events = (total o.log i).events)
  /-- Lookups find the items of their references. -/
  faithful : o.corpus.store.Faithful
  /-- The writes of the log were made in the store. -/
  store : o.corpus.store = Write.allToStore c.store (o.log.flatMap (·.2.writes))
  /-- They have made the news of the log. -/
  news : o.log.flatMap (·.2.news) = Write.allNews c.store (o.log.flatMap (·.2.writes))
  /-- Nothing is left to commit. -/
  pending : o.corpus.index.pending = []
  /-- The operations of the log were carried out in the index. -/
  documents : o.corpus.index.documents =
    o.log.foldl (fun ds entry => entry.2.operations.foldl Index.carryOut ds) c.index.documents
  /-- The subscription is there. -/
  listens : o.corpus.bus.Listens id
  /-- The events of the log were announced. -/
  announced : (o.corpus.bus.queue id).flatten =
    (c.bus.queue id).flatten ++ o.log.flatMap (·.2.events)

namespace Logged

theorem begin (h : c.Followed id) (edits : ι → Edit) : Logged c id edits (begin c edits) := by
  refine ⟨fun i => .edit (edits i), ?_, h.inStep.faithful, rfl, rfl, h.pending, rfl, h.listens, ?_⟩
  · intro i d hd
    cases hd
  · exact (List.append_nil _).symm

/-- **A step is logged.** -/
theorem step (h : Logged c id edits o) (i : ι) : Logged c id edits (o.step i) := by
  have hkept := h.kept i
  obtain ⟨hpending, hdocuments⟩ := Change.documents_step h.pending (o.changes i)
  obtain ⟨hlistens, hannounced⟩ := Change.announced_step h.listens (o.changes i)
  have hstore := Change.store_step o.corpus (o.changes i)
  refine ⟨fun j => ?_, fun j d hd => ?_, ?_, ?_, ?_, hpending, ?_, hlistens, ?_⟩
  · rw [changes_step, log_step, total_concat]
    split
    · next hj => exact hj ▸ hkept.step h.faithful.found
    · exact h.kept j
  · rw [log_step] at hd ⊢
    rw [total_concat]
    obtain ⟨hoperations, hevents⟩ := hkept.eq_nil_or o.corpus.store
    rcases List.mem_append.mp hd with hold | hnew
    · obtain ⟨hold1, hold2⟩ := h.whole j d hold
      split
      · next hj =>
        subst hj
        exact ⟨eq_nil_or_append hold1 hoperations, eq_nil_or_append hold2 hevents⟩
      · exact ⟨hold1, hold2⟩
    · obtain ⟨rfl, rfl⟩ := Prod.mk.inj (List.mem_singleton.mp hnew)
      rw [if_pos rfl]
      exact ⟨eq_nil_or_append_self hoperations, eq_nil_or_append_self hevents⟩
  · show ((o.changes i).step o.corpus).1.store.Faithful
    rw [hstore]
    exact h.faithful.allToStore _
  · rw [log_step, List.flatMap_append, List.flatMap_singleton, Write.allToStore_append, ← h.store]
    exact hstore
  · rw [log_step, List.flatMap_append, List.flatMap_append, List.flatMap_singleton,
      List.flatMap_singleton, Write.allNews_append, ← h.store, ← h.news, Change.news_deed]
  · rw [log_step, List.foldl_append, List.foldl_cons, List.foldl_nil, ← h.documents]
    exact hdocuments
  · rw [log_step, List.flatMap_append, List.flatMap_singleton, ← List.append_assoc, ← h.announced]
    exact hannounced

/-- **A run is logged.** -/
theorem run (h : Logged c id edits o) (schedule : List ι) :
    Logged c id edits (o.run schedule) := by
  induction schedule generalizing o with
  | nil => exact h
  | cons i rest ih => exact ih (h.step i)

end Logged

end Overlap

end LiveSearch
