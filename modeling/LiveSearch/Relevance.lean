import LiveSearch.Single.Rounding

/-!
# Relevance tiers

The hits of a query are divided into three **tiers** by two thresholds, one third and two thirds of
the best score. A score belongs to a tier only if it lies *above* the tier's threshold.

* `Thresholds.ofScores` – the thresholds of a list of scores. The best score is at least zero, and
  scores that are no number are passed over.
* `Thresholds.classify` – the tier of a score.
-/

namespace LiveSearch

/-- How well a hit answers its query. -/
inductive Tier where
  | low
  | medium
  | high
deriving DecidableEq, Inhabited

/-- The name of a tier. -/
def Tier.name : Tier → String
  | .low => "low"
  | .medium => "medium"
  | .high => "high"

/-- The **thresholds** between the tiers. -/
structure Thresholds where
  /-- The best score. -/
  best : Single
  /-- What a score of the middle tier exceeds. -/
  medium : Single
  /-- What a score of the highest tier exceeds. -/
  high : Single
deriving DecidableEq, Inhabited

namespace Thresholds

/-- Two, as a score. -/
def two : Single :=
  Single.ofNat 2

/-- Three, as a score. -/
def three : Single :=
  Single.ofNat 3

/-- The thresholds below a best score. The upper one is rounded twice: the score is doubled first,
and divided then. -/
def ofBest (best : Single) : Thresholds :=
  { best, medium := best.div three, high := (two.mul best).div three }

/-- The best of a list of scores. -/
def bestOf (scores : List Single) : Single :=
  scores.foldl Single.max Single.zero

/-- The thresholds of a list of scores. -/
def ofScores (scores : List Single) : Thresholds :=
  ofBest (bestOf scores)

/-- The tier of a score. -/
def classify (t : Thresholds) (score : Single) : Tier :=
  if t.high.lt score then .high
  else if t.medium.lt score then .medium
  else .low

end Thresholds

/-- The tiers of the scores of a list, by the thresholds of that list. -/
def classifyAll (scores : List Single) : List Tier :=
  scores.map (Thresholds.ofScores scores).classify

end LiveSearch
