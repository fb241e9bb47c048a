import LiveSearch.Item
import LiveSearch.Relevance

/-!
# Hits

* `RankedHit` – what the index answers: an item's reference with its score, and the state and the
  attributes that the item had when it was indexed.
* `Hit` – what a result set holds: in addition the tier of the score, which is computed once, and
  the item itself as soon as it has been looked up.

Hits carry enough to be shown and sorted without the item.
-/

namespace LiveSearch

/-- The **attributes** of an item that a hit is shown and sorted by. -/
structure Attributes where
  title : String := ""
  author : String := ""
  feed : String := ""
  /-- The date that the item is shown and sorted by. -/
  recentDate : UInt64 := 0
deriving DecidableEq, Inhabited

/-- The attributes of an item. -/
def Attributes.ofItem (item : Item) : Attributes :=
  { title := item.title, author := item.author, feed := item.feed, recentDate := item.recentDate }

/-- A hit as the index answers it. -/
structure RankedHit where
  ref : Reference
  /-- How well the item matches; more is better. -/
  score : Single
  state : State
  attributes : Attributes
deriving DecidableEq, Inhabited

/-- A hit in a result set. -/
structure Hit where
  ref : Reference
  /-- The score of the query that found the item. -/
  score : Single
  /-- The tier of the score among the scores of that query. -/
  tier : Tier
  /-- The state of the item, as far as is known. -/
  state : State
  /-- The attributes of the item, as far as is known. -/
  attributes : Attributes
  /-- The item, once it has been looked up. -/
  item : Option Item := none
deriving DecidableEq, Inhabited

namespace Hit

/-- A hit of an index with the tier that the thresholds give its score. -/
def ofRanked (thresholds : Thresholds) (hit : RankedHit) : Hit :=
  { ref := hit.ref, score := hit.score, tier := thresholds.classify hit.score, state := hit.state
    attributes := hit.attributes }

/-- The hits of a query with their tiers. -/
def classify (hits : List RankedHit) : List Hit :=
  hits.map (ofRanked (Thresholds.ofScores (hits.map (·.score))))

/-- Is the item of the hit in a visible state? -/
def isVisible (h : Hit) : Bool :=
  h.state.isVisible

/-- The hit with the state, the attributes and the item of a new version. Score and tier stay. -/
def refreshed (h : Hit) (item : Item) : Hit :=
  { h with state := item.state, attributes := Attributes.ofItem item, item := some item }

/-- The hit with its item, unless it carries one already. -/
def attached (h : Hit) (item : Item) : Hit :=
  { h with item := h.item.or (some item) }

end Hit

end LiveSearch
