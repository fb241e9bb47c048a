import LiveSearch.Index.Compile
import LiveSearch.Index.Scoring

/-!
# The index

The index holds its documents in **segments**, one for each commit that added any. Documents are
added and deleted in a batch of pending **operations**, which a commit makes visible and a rollback
drops. A deleted document stays in its segment, marked as dead, until all documents of the segment
are dead.

* `Index.commit`, `Index.rollback` – the ends of a batch.
* `Index.documents` – the searchable documents.
* `Index.search` – **the answer to a query**: the documents that it finds, the best score first.
-/

namespace LiveSearch

/-- A document in a segment. -/
structure Entry where
  /-- The document. -/
  document : Document
  /-- Is it still there to be found? -/
  live : Bool := true
deriving DecidableEq, Inhabited

/-- The documents that one commit has added. -/
abbrev Segment := List Entry

/-- A pending change to the index. -/
inductive IndexOperation where
  /-- A document is added. -/
  | add (d : Document)
  /-- The documents with a reference, added before, are deleted. -/
  | delete (ref : Reference)
deriving DecidableEq, Inhabited

/-- The index: its committed segments, and the operations since the last commit. -/
structure Index where
  /-- The committed segments, in the order of their commits. -/
  segments : List Segment := []
  /-- The operations since the last commit, in order. -/
  pending : List IndexOperation := []
deriving DecidableEq, Inhabited

namespace Index

/-! ### Changing the index -/

/-- The index with one more pending operation. -/
def enqueue (ix : Index) (op : IndexOperation) : Index :=
  { ix with pending := ix.pending ++ [op] }

/-- Adds a document. -/
def addDocument (ix : Index) (d : Document) : Index :=
  ix.enqueue (.add d)

/-- Deletes the documents with a reference. -/
def delete (ix : Index) (ref : Reference) : Index :=
  ix.enqueue (.delete ref)

/-- The index with the pending operations of a list. -/
def enqueueAll (ix : Index) (ops : List IndexOperation) : Index :=
  { ix with pending := ix.pending ++ ops }

/-- The operations that put an item in the place of the version that may be there. -/
def replacement (item : Item) : List IndexOperation :=
  [.delete item.ref, .add (Document.ofItem item)]

/-- Adds an item, or replaces the version that is there. -/
def add (ix : Index) (item : Item) : Index :=
  ix.enqueueAll (replacement item)

/-- An entry after the deletion of a reference. -/
def killEntry (ref : Reference) (e : Entry) : Entry :=
  if e.document.ref = ref then { e with live := false } else e

/-- Segments and a new segment after one operation. -/
def perform (state : List Segment × Segment) (op : IndexOperation) : List Segment × Segment :=
  match op with
  | .add d => (state.1, state.2 ++ [{ document := d }])
  | .delete ref => (state.1.map (·.map (killEntry ref)), state.2.map (killEntry ref))

/-- Has a segment a document that can be found? -/
def isAlive (s : Segment) : Bool :=
  s.any (·.live)

/-- Makes the pending operations visible. -/
def commit (ix : Index) : Index :=
  let (segments, added) := ix.pending.foldl perform (ix.segments, [])
  { segments := (segments ++ [added]).filter isAlive }

/-- Drops the pending operations. -/
def rollback (ix : Index) : Index :=
  { ix with pending := [] }

/-! ### Searching -/

/-- The entries of all segments. -/
def entries (ix : Index) : List Entry :=
  ix.segments.flatten

/-- The documents of all segments, dead ones included. -/
def allDocuments (ix : Index) : List Document :=
  ix.entries.map (·.document)

/-- The searchable documents. -/
def documents (ix : Index) : List Document :=
  (ix.entries.filter (·.live)).map (·.document)

/-- The number of searchable documents. -/
def count (ix : Index) : Nat :=
  ix.documents.length

/-- Does the first score not stand behind the second? -/
def scoreGe (a b : Single × Document) : Bool :=
  a.1.compareRank b.1 ≠ .lt

/-- The documents that a query finds with their scores, the best first, equal scores in the order of
the documents. -/
def ranking (ix : Index) (q : Query) : List (Single × Document) :=
  let weights := Weights.ofTerms q.terms ix.allDocuments
  let scored := ix.documents.filterMap fun d => (q.score weights Term.one d).map (·, d)
  scored.mergeSort scoreGe

/-- The number of documents that an answer may be made of: as many as can be searched, but at least
one. -/
def limit (ix : Index) : Nat :=
  max ix.count 1

/-- A scored document as a hit, if its state is known. -/
def hit? (score : Single) (d : Document) : Option RankedHit :=
  d.state?.map fun state => { ref := d.ref, score, state, attributes := d.attributes }

/-- **The answer to a query**: the best documents up to the limit. Those whose state this version does
not know are left out. -/
def search (ix : Index) (conditions : List Condition) (matchAll : Bool) :
    Except Failure (List RankedHit) := do
  let q ← Query.ofConditions conditions matchAll
  return ((ix.ranking q).take ix.limit).filterMap fun (score, d) => hit? score d

end Index

end LiveSearch
