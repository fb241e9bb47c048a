import LiveSearch.Index.Query
import LiveSearch.Single.Logarithm

/-!
# Scores

A document that has a term scores by the **rarity** of the term, by how often the document has it,
and by the length of the field it stands in. The formula is the one known as BM25, evaluated in
scores of thirty-two bits.

* `Term.weightIn` – what the formula needs of all documents: the rarity of a term and the average
  length of its field.
* `Term.score` – the score of one document for one term.
* `Query.score` – **the score of a query**: a document that the query does not find has none, an
  intersection or a union adds up the scores of the parts that find it, and everything that is not a
  term scores one.

The documents counted include those that have been replaced or deleted but are still held in a
segment with live ones.
-/

namespace LiveSearch

open Text

/-! ### Field lengths -/

/-- The length of a field as the index remembers it. Lengths up to forty are exact; beyond that they
are rounded down to a multiple of a step that doubles with every eight steps. -/
def rememberedLength (length : Nat) : Nat :=
  if length ≤ 40 then length
  else
    let level := ((length - 24) / 16).log2
    let half := Nat.pow 2 level
    let base := 24 + 16 * half
    base + (length - base) / (2 * half) * (2 * half)

namespace Term

/-- The number of units in the field of a term. -/
def fieldLength (t : Term) (d : Document) : Nat :=
  match t with
  | .word field _ => (d.wordsOf field).length
  | .value field _ => (d.valuesOf field).length
  | .number field _ => if (d.numberOf? field).isSome then 1 else 0

/-! ### Weights -/

/-- What the scores of a term need of all documents. -/
structure Weight where
  /-- The rarity of the term, with a constant factor. -/
  rarity : Single
  /-- The average length of its field. -/
  averageLength : Single
deriving DecidableEq, Inhabited

/-- One half, as a score. -/
def half : Single :=
  Single.ofRatio 1 2

/-- One, as a score. -/
def one : Single :=
  Single.ofNat 1

/-- How soon repetitions of a word stop to count. -/
def saturation : Single :=
  Single.ofRatio 12 10

/-- How much the length of a field counts. -/
def lengthShare : Single :=
  Single.ofRatio 75 100

/-- The rarity of a term that `found` of `total` documents have. -/
def rarity (found total : Nat) : Single :=
  let absent := (Single.ofNat (total - found)).add half
  let present := (Single.ofNat found).add half
  (one.add (absent.div present)).ln

/-- The weight of a term among documents. -/
def weightIn (t : Term) (documents : List Document) : Weight :=
  let total := documents.length
  let units := documents.foldr (fun d count => t.fieldLength d + count) 0
  { rarity := (rarity (documents.countP t.occursIn) total).mul (one.add saturation)
    averageLength := (Single.ofNat units).div (Single.ofNat total) }

/-- The score of a document that has the term. -/
def score (t : Term) (w : Weight) (boost : Single) (d : Document) : Single :=
  let frequency := Single.ofNat (t.frequency d)
  let length := Single.ofNat (rememberedLength (t.fieldLength d))
  let relative := (lengthShare.mul length).div w.averageLength
  let norm := saturation.mul ((one.add lengthShare.negate).add relative)
  (w.rarity.mul boost).mul (frequency.div (frequency.add norm))

end Term

/-- The weights of the terms of a query. -/
abbrev Weights := List (Term × Term.Weight)

namespace Weights

/-- The weights of terms among documents. -/
def ofTerms (terms : List Term) (documents : List Document) : Weights :=
  terms.eraseDups.map fun t => (t, t.weightIn documents)

/-- The weight of a term. -/
def of (ws : Weights) (t : Term) : Term.Weight :=
  ((ws.find? (·.1 = t)).map (·.2)).getD default

end Weights

namespace Query

/-- The sum of a score and those that come after it. -/
def addScores (first : Single) (others : List Single) : Single :=
  others.foldl Single.add first

/-- The sum of the scores of those parts that have one, if there is any. -/
def total (scores : List (Option Single)) : Option Single :=
  match scores.filterMap id with
  | [] => none
  | first :: others => some (addScores first others)

mutual

/-- **The score of a query** for a document. -/
def score (ws : Weights) (boost : Single) : Query → Document → Option Single
  | .everything, _ => some boost
  | .nothing, _ => none
  | .term t, d => if t.occursIn d then some (t.score (ws.of t) boost d) else none
  | .pattern field p, d => if (d.valuesOf field).any p.describes then some boost else none
  | .between field lower upper, d =>
    if (d.timeOf? field).any (inRange lower upper) then some boost else none
  | .allOf qs, d =>
    let scores := scoreEach ws boost qs d
    if scores.all Option.isSome then total scores else none
  | .anyOf qs, d => total (scoreEach ws boost qs d)
  | .except q, d => if (score ws boost q d).isSome then none else some boost
  | .boosted factor q, d => score ws (boost.mul (Single.ofNat factor)) q d

/-- The scores of the queries of a list for a document. -/
def scoreEach (ws : Weights) (boost : Single) : List Query → Document → List (Option Single)
  | [], _ => []
  | q :: qs, d => score ws boost q d :: scoreEach ws boost qs d

end

end Query

end LiveSearch
