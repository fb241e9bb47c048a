import LiveSearch.Index.Document
import LiveSearch.Text.Pattern

/-!
# Queries over documents

A **query** is built from terms, patterns and ranges of time by intersection, union and complement.

* `Query.finds` – **what a query finds**: the documents, whatever their scores.

An intersection of nothing finds nothing, and so does a union of nothing.
-/

namespace LiveSearch

open Text

/-- A **term**: a unit of a field that a document either has or has not. -/
inductive Term where
  /-- A word in a field that is indexed word by word. -/
  | word (field : WordField) (token : Token)
  /-- A whole value. -/
  | value (field : ValueField) (token : Token)
  /-- A number. -/
  | number (field : NumberField) (n : Nat)
deriving DecidableEq, Inhabited

/-- A **bound** of a range of times. -/
inductive Bound where
  | unbounded
  /-- The time itself lies in the range. -/
  | included (time : UInt64)
  /-- The time itself lies outside. -/
  | excluded (time : UInt64)
deriving DecidableEq, Inhabited

/-- A **query** over documents. -/
inductive Query where
  /-- Finds every document. -/
  | everything
  /-- Finds no document. -/
  | nothing
  /-- Finds the documents with a term. -/
  | term (t : Term)
  /-- Finds the documents with a value that the pattern describes. -/
  | pattern (field : ValueField) (p : Pattern)
  /-- Finds the documents with a time between two bounds. -/
  | between (field : TimeField) (lower upper : Bound)
  /-- Finds what all parts find. -/
  | allOf (parts : List Query)
  /-- Finds what some part finds. -/
  | anyOf (parts : List Query)
  /-- Finds what the query does not find. -/
  | except (q : Query)
  /-- Finds what the query finds, with scores multiplied. -/
  | boosted (factor : Nat) (q : Query)
deriving Inhabited

namespace Term

/-- How often a document has a term. Only words are counted. -/
def frequency (t : Term) (d : Document) : Nat :=
  match t with
  | .word field token => (d.wordsOf field).countP (· = token)
  | .value field token => if (d.valuesOf field).any (· = token) then 1 else 0
  | .number field n => if d.numberOf? field = some n then 1 else 0

/-- Has the document the term? -/
def occursIn (t : Term) (d : Document) : Bool :=
  0 < t.frequency d

end Term

/-- Does a time lie above a lower bound? -/
def Bound.isBelow : Bound → UInt64 → Bool
  | .unbounded, _ => true
  | .included first, time => first ≤ time
  | .excluded last, time => last < time

/-- Does a time lie below an upper bound? -/
def Bound.isAbove : Bound → UInt64 → Bool
  | .unbounded, _ => true
  | .included last, time => time ≤ last
  | .excluded first, time => time < first

/-- Does a time lie between two bounds? -/
def inRange (lower upper : Bound) (time : UInt64) : Bool :=
  lower.isBelow time && upper.isAbove time

namespace Query

mutual

/-- **What a query finds.** -/
def finds : Query → Document → Bool
  | .everything, _ => true
  | .nothing, _ => false
  | .term t, d => t.occursIn d
  | .pattern field p, d => (d.valuesOf field).any p.describes
  | .between field lower upper, d => (d.timeOf? field).any (inRange lower upper)
  | .allOf [], _ => false
  | .allOf (q :: qs), d => q.finds d && findsAll qs d
  | .anyOf qs, d => findsAny qs d
  | .except q, d => !q.finds d
  | .boosted _ q, d => q.finds d

/-- Do all queries of a list find the document? -/
def findsAll : List Query → Document → Bool
  | [], _ => true
  | q :: qs, d => q.finds d && findsAll qs d

/-- Does some query of a list find the document? -/
def findsAny : List Query → Document → Bool
  | [], _ => false
  | q :: qs, d => q.finds d || findsAny qs d

end

/-! ### The terms of a query -/

mutual

/-- The terms that a query is built from. -/
def terms : Query → List Term
  | .term t => [t]
  | .allOf qs => termsOfAll qs
  | .anyOf qs => termsOfAll qs
  | .except q => q.terms
  | .boosted _ q => q.terms
  | .everything | .nothing | .pattern .. | .between .. => []

/-- The terms that the queries of a list are built from. -/
def termsOfAll : List Query → List Term
  | [] => []
  | q :: qs => q.terms ++ termsOfAll qs

end

end Query

end LiveSearch
