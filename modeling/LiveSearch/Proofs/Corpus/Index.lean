import LiveSearch.Index
import LiveSearch.Provider

/-!
# The index as a list of documents

Segments, dead entries and pending operations are the business of the index alone: seen from
outside, a commit carries the pending operations out, one after the other, on the list of the
searchable documents (`Index.documents_commit`). An answer to a query is made of these documents
(`Index.mem_search`).
-/

namespace LiveSearch

namespace Index

/-! ### Committing -/

/-- **What an operation does to the searchable documents.** -/
def carryOut (documents : List Document) : IndexOperation → List Document
  | .add d => documents ++ [d]
  | .delete ref => documents.filter (·.ref ≠ ref)

/-- The documents of the live entries. -/
def liveDocuments (entries : List Entry) : List Document :=
  (entries.filter (·.live)).map (·.document)

theorem liveDocuments_append (xs ys : List Entry) :
    liveDocuments (xs ++ ys) = liveDocuments xs ++ liveDocuments ys := by
  rw [liveDocuments, List.filter_append, List.map_append]
  rfl

theorem liveDocuments_map_killEntry (ref : Reference) (entries : List Entry) :
    liveDocuments (entries.map (killEntry ref)) =
      (liveDocuments entries).filter (·.ref ≠ ref) := by
  induction entries with
  | nil => rfl
  | cons e entries ih =>
    rw [List.map_cons, ← List.singleton_append, liveDocuments_append, ih,
      ← List.singleton_append (l := entries), liveDocuments_append, List.filter_append]
    congr 1
    by_cases href : e.document.ref = ref <;> by_cases hlive : e.live <;>
      simp [liveDocuments, killEntry, href, hlive]

/-- Segments without live entries hold no searchable document. -/
theorem liveDocuments_flatten_filter (segments : List Segment) :
    liveDocuments (segments.filter isAlive).flatten = liveDocuments segments.flatten := by
  induction segments with
  | nil => rfl
  | cons seg segments ih =>
    rw [List.flatten_cons, liveDocuments_append]
    by_cases halive : isAlive seg
    · rw [List.filter_cons_of_pos halive, List.flatten_cons, liveDocuments_append, ih]
    · have hnil : liveDocuments seg = [] := by
        rw [liveDocuments, List.map_eq_nil_iff, List.filter_eq_nil_iff]
        intro e he hlive
        exact halive (List.any_eq_true.mpr ⟨e, he, hlive⟩)
      rw [List.filter_cons_of_neg halive, ih, hnil, List.nil_append]

/-- What an operation does to segments and a new segment is what it does to their documents. -/
theorem liveDocuments_perform (state : List Segment × Segment) (op : IndexOperation) :
    liveDocuments ((perform state op).1.flatten ++ (perform state op).2) =
      carryOut (liveDocuments (state.1.flatten ++ state.2)) op := by
  cases op with
  | add d =>
    rw [perform, carryOut, ← List.append_assoc, liveDocuments_append]
    rfl
  | delete ref =>
    rw [perform, carryOut, ← liveDocuments_map_killEntry, List.map_append, List.map_flatten]

theorem liveDocuments_foldl_perform (ops : List IndexOperation)
    (state : List Segment × Segment) :
    liveDocuments ((ops.foldl perform state).1.flatten ++ (ops.foldl perform state).2) =
      ops.foldl carryOut (liveDocuments (state.1.flatten ++ state.2)) := by
  induction ops generalizing state with
  | nil => rfl
  | cons op ops ih => rw [List.foldl_cons, ih, liveDocuments_perform, List.foldl_cons]

/-- **A commit carries the pending operations out** on the searchable documents. -/
theorem documents_commit (ix : Index) :
    ix.commit.documents = ix.pending.foldl carryOut ix.documents := by
  have hfold := liveDocuments_foldl_perform ix.pending (ix.segments, [])
  rw [List.append_nil] at hfold
  have hcommit : ix.commit.documents = liveDocuments
      (((ix.pending.foldl perform (ix.segments, [])).1 ++
        [(ix.pending.foldl perform (ix.segments, [])).2]).filter isAlive).flatten := rfl
  rw [hcommit, liveDocuments_flatten_filter, List.flatten_append, List.flatten_singleton, hfold]
  rfl

/-- Replacing an item leaves the documents of all other references, and its own document. -/
theorem foldl_replacement (documents : List Document) (item : Item) :
    (replacement item).foldl carryOut documents =
      documents.filter (·.ref ≠ item.ref) ++ [Document.ofItem item] := rfl

/-- Operations that are committed at once are carried out on the searchable documents. -/
theorem documents_commit_enqueueAll {ix : Index} (hpending : ix.pending = [])
    (ops : List IndexOperation) :
    ((ix.enqueueAll ops).commit).documents = ops.foldl carryOut ix.documents := by
  rw [documents_commit, enqueueAll, hpending, List.nil_append]
  rfl

/-- Deleting references leaves the documents of all others. -/
theorem foldl_deletions (documents : List Document) (refs : List Reference) :
    (refs.map IndexOperation.delete).foldl carryOut documents =
      documents.filter (·.ref ∉ refs) := by
  induction refs generalizing documents with
  | nil => exact (List.filter_eq_self.mpr (by simp)).symm
  | cons ref refs ih =>
    rw [List.map_cons, List.foldl_cons, ih, carryOut, List.filter_filter]
    refine List.filter_congr fun d _ => ?_
    by_cases h : d.ref = ref <;> simp [h]

/-! ### Answers -/

/-- What a hit says of a document. -/
theorem hit?_eq_some {score : Single} {d : Document} {h : RankedHit} (hh : hit? score d = some h) :
    h.ref = d.ref ∧ d.state? = some h.state ∧ h.attributes = d.attributes := by
  obtain ⟨state, hstate, rfl⟩ := Option.map_eq_some_iff.mp hh
  exact ⟨rfl, hstate, rfl⟩

/-- **An answer is made of searchable documents.** -/
theorem mem_search {ix : Index} {conditions : List Condition} {matchAll : Bool}
    {hits : List RankedHit} {h : RankedHit} (hs : ix.search conditions matchAll = .ok hits)
    (hh : h ∈ hits) :
    ∃ d ∈ ix.documents, h.ref = d.ref ∧ d.state? = some h.state ∧ h.attributes = d.attributes := by
  rw [search] at hs
  cases hq : Query.ofConditions conditions matchAll with
  | error e =>
    rw [hq] at hs
    cases hs
  | ok q =>
    rw [hq] at hs
    obtain rfl := Except.ok.inj hs
    obtain ⟨⟨score, d⟩, hranked, hhit⟩ := List.mem_filterMap.mp hh
    refine ⟨d, ?_, hit?_eq_some hhit⟩
    have hscored := List.mem_mergeSort.mp (List.mem_of_mem_take hranked)
    obtain ⟨d', hd', hscore⟩ := List.mem_filterMap.mp hscored
    obtain ⟨_, -, heq⟩ := Option.map_eq_some_iff.mp hscore
    rw [← (Prod.mk.inj heq).2]
    exact hd'

end Index

/-- A checked query answers with visible hits of the provider. -/
theorem Provider.mem_execute {provider : Provider} {conditions : List Condition} {matchAll : Bool}
    {hits : List RankedHit} {h : RankedHit}
    (he : provider.execute conditions matchAll = .ok hits) (hh : h ∈ hits) :
    ∃ raw, provider conditions matchAll = .ok raw ∧ h ∈ raw ∧ h.state.isVisible = true := by
  rw [execute] at he
  split at he
  · rw [ask] at he
    split at he
    · next raw hraw =>
      obtain rfl := Except.ok.inj he
      obtain ⟨hmem, hv⟩ := List.mem_filter.mp hh
      exact ⟨raw, hraw, hmem, hv⟩
    · cases he
  · cases he

/-! ### A query for all that has arrived -/

/-- The condition of having arrived after the beginning of 1970. -/
def Condition.arrived : Condition :=
  { field := .received, specifier := .isAfter, value := .date 0 }

/-- A document as the answer to a query that scores one. -/
def RankedHit.ofItem (item : Item) : RankedHit :=
  { ref := item.ref, score := Term.one, state := item.state
    attributes := Attributes.ofItem item }

/-- What has arrived is found, and scores one. -/
theorem Index.search_arrived {ix : Index} {item : Item}
    (hdocuments : ix.documents = [Document.ofItem item]) (hreceived : 0 < item.received.toNat) :
    ix.search [Condition.arrived] true = .ok [.ofItem item] := by
  have hquery : Query.ofConditions [Condition.arrived] true =
      .ok (.allOf [.between .received (.excluded 0) .unbounded]) := rfl
  have hrange : inRange (.excluded 0) .unbounded item.received = true := by
    simp only [inRange, Bound.isBelow, Bound.isAbove, Bool.and_true, decide_eq_true_eq]
    exact UInt64.lt_iff_toNat_lt.mpr hreceived
  have hranking : ix.ranking (.allOf [.between .received (.excluded 0) .unbounded]) =
      [(Term.one, Document.ofItem item)] := by
    rw [ranking, hdocuments]
    simp [Query.score, Query.scoreEach, Document.timeOf?, Document.ofItem, hrange, Query.total,
      Query.addScores]
  have hstate : State.ofCode? item.state.code = some item.state := by cases item.state <;> rfl
  rw [search, hquery]
  show Except.ok (((ix.ranking _).take ix.limit).filterMap _) = _
  rw [hranking, List.take_of_length_le (Nat.le_max_right ix.count 1)]
  simp [hit?, Document.state?, Document.ofItem, RankedHit.ofItem, hstate]

theorem Index.execute_arrived {ix : Index} {item : Item}
    (hdocuments : ix.documents = [Document.ofItem item]) (hreceived : 0 < item.received.toNat)
    (hvisible : item.isVisible = true) :
    Provider.execute ix.search [Condition.arrived] true = .ok [.ofItem item] := by
  have hstate : (RankedHit.ofItem item).state.isVisible = true := hvisible
  rw [Provider.execute, show validateConditions [Condition.arrived] = .ok () from rfl]
  simp [Provider.ask, search_arrived hdocuments hreceived, hstate]

end LiveSearch
