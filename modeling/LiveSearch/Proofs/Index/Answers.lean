import LiveSearch.Proofs.Corpus.Index
import LiveSearch.Proofs.Index.Finding
import Mathlib.Data.List.Forall2

/-!
# Answers list documents

An answer is a list of hits, and a hit shows of its document what can be shown. That some hits
**list** a set of documents (`Index.Lists`) means that the documents of the set whose state is known
can be put in an order in which each of them has its hit: none is missing, none is listed twice, and
nothing else is listed. The scores decide about the order alone.

**The answer to a query lists what the query finds** (`Index.answers_of_query`). The limit cuts nothing
off, because no query finds more documents than there are.
-/

namespace LiveSearch

/-- **A hit shows a document**: reference, state and attributes are those of the document. -/
def RankedHit.Shows (h : RankedHit) (d : Document) : Prop :=
  h.ref = d.ref ∧ d.state? = some h.state ∧ h.attributes = d.attributes

namespace Index

variable {ix : Index} {hits : List RankedHit} {P : Document → Bool}

/-- **The hits list the documents of a set**: one hit for each searchable document of the set whose
state is known. -/
def Lists (ix : Index) (hits : List RankedHit) (P : Document → Bool) : Prop :=
  ∃ listed : List Document, List.Forall₂ RankedHit.Shows hits listed ∧
    listed.Perm (ix.documents.filter fun d => d.state?.isSome && P d)

/-- **A query is answered** with hits that list the documents of a set. -/
def Answers (ix : Index) (conditions : List Condition) (matchAll : Bool) (P : Document → Bool) :
    Prop :=
  ∃ hits, ix.search conditions matchAll = .ok hits ∧ ix.Lists hits P

/-! ### The documents with a score -/

/-- The documents with a score are those that the query finds. -/
theorem perm_ranking (ix : Index) (q : Query) :
    ((ix.ranking q).map (·.2)).Perm (ix.documents.filter q.finds) := by
  rw [ranking]
  refine ((List.mergeSort_perm _ _).map _).trans (List.Perm.of_eq ?_)
  rw [List.map_filterMap, ← List.filterMap_eq_filter]
  refine List.filterMap_congr fun d _ => ?_
  have hfound := Query.isSome_score (Weights.ofTerms q.terms ix.allDocuments) Term.one q d
  rw [Option.map_map, Option.guard, ← hfound]
  cases q.score (Weights.ofTerms q.terms ix.allDocuments) Term.one d <;> rfl

/-- **The limit cuts nothing off.** -/
theorem take_ranking (ix : Index) (q : Query) : (ix.ranking q).take ix.limit = ix.ranking q := by
  have hlength := (ix.perm_ranking q).length_eq
  rw [List.length_map] at hlength
  have hle := List.length_filter_le q.finds ix.documents
  refine List.take_of_length_le ?_
  rw [hlength, limit, count]
  omega

/-! ### From documents to hits -/

/-- The hits of some scored documents show those whose state is known, in the same order. -/
theorem shows_hits (scored : List (Single × Document)) :
    List.Forall₂ RankedHit.Shows (scored.filterMap fun (score, d) => hit? score d)
      ((scored.map (·.2)).filter (·.state?.isSome)) := by
  induction scored with
  | nil => exact .nil
  | cons first rest ih =>
    obtain ⟨score, d⟩ := first
    rw [List.map_cons]
    cases hstate : d.state? with
    | none =>
      have hnone : hit? score d = none := by rw [hit?, hstate, Option.map_none]
      rw [List.filter_cons_of_neg (by simp [hstate])]
      simp only [List.filterMap_cons, hnone]
      exact ih
    | some state =>
      have hsome : hit? score d =
          some { ref := d.ref, score, state, attributes := d.attributes } := by
        rw [hit?, hstate, Option.map_some]
      rw [List.filter_cons_of_pos (by simp [hstate])]
      simp only [List.filterMap_cons, hsome]
      exact .cons (hit?_eq_some hsome) ih

/-- **The answer to a query lists what the query finds.** -/
theorem answers_of_query {conditions : List Condition} {matchAll : Bool} {q : Query}
    (hq : Query.ofConditions conditions matchAll = .ok q) :
    ix.Answers conditions matchAll q.finds := by
  refine ⟨(ix.ranking q).filterMap fun (score, d) => hit? score d, ?_, _, shows_hits _, ?_⟩
  · rw [search, hq]
    show Except.ok (((ix.ranking q).take ix.limit).filterMap _) = _
    rw [ix.take_ranking q]
  · rw [← List.filter_filter]
    exact (ix.perm_ranking q).filter _

end Index

end LiveSearch
