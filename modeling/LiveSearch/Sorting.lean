import LiveSearch.Hit
import LiveSearch.Text.Lowercase

/-!
# Sorting hits

* `SortOrder.compare` – **the comparison** of two hits under a sort order. Texts are compared in
  lower case, character by character, and by code point. Hits with the same score are compared by
  date, the newest first, whichever way the scores are sorted.
* `SortOrder.sort` – the stable sort by it.
* `SortKey.parse?` – the reading of a key.
-/

namespace LiveSearch

open Text

/-- What hits are sorted by. -/
inductive SortKey where
  | score
  | title
  | author
  | feed
  | date
  | state
deriving DecidableEq, Inhabited

namespace SortKey

/-- The name of a key. -/
def name : SortKey → String
  | .score => "score"
  | .title => "title"
  | .author => "author"
  | .feed => "feed"
  | .date => "date"
  | .state => "state"

/-- The key with a name; the score has two. -/
def ofName? (name : String) : Option SortKey :=
  if name = "relevance" then some .score
  else [SortKey.score, .title, .author, .feed, .date, .state].find? (·.name = name)

/-- A typed text in the form in which it is looked up: without the blanks around it, the capitals of
ASCII made small. -/
def folded (s : String) : String :=
  (trim s).toLower

/-- Reads a key. -/
def parse? (s : String) : Option SortKey :=
  ofName? (folded s)

/-- The sentence for a text that names no key. -/
def unknownMessage (s : String) : String :=
  "unknown sort key '" ++ folded s ++ "'"

end SortKey

/-- A key and a direction. -/
structure SortOrder where
  key : SortKey := .score
  ascending : Bool := false
deriving DecidableEq, Inhabited

/-- The order of two lists of characters by the first difference in their code points. -/
def compareChars : List Char → List Char → Ordering
  | [], [] => .eq
  | [], _ :: _ => .lt
  | _ :: _, [] => .gt
  | a :: as, b :: bs => (compare a.toNat b.toNat).then (compareChars as bs)

/-- The order of two texts in lower case. -/
def compareTexts (a b : String) : Ordering :=
  compareChars (lowerEach a.toList) (lowerEach b.toList)

namespace SortKey

/-- The ascending order of two hits by a key alone. -/
def compare (key : SortKey) (a b : Hit) : Ordering :=
  match key with
  | .score => a.score.compareRank b.score
  | .title => compareTexts a.attributes.title b.attributes.title
  | .author => compareTexts a.attributes.author b.attributes.author
  | .feed => compareTexts a.attributes.feed b.attributes.feed
  | .date => Ord.compare a.attributes.recentDate.toNat b.attributes.recentDate.toNat
  | .state => Ord.compare a.state.code b.state.code

end SortKey

namespace SortOrder

/-- **The comparison** of two hits. -/
def compare (order : SortOrder) (a b : Hit) : Ordering :=
  let primary := order.key.compare a b
  let directed := if order.ascending then primary else primary.swap
  if directed = .eq ∧ order.key = .score then
    Ord.compare b.attributes.recentDate.toNat a.attributes.recentDate.toNat
  else directed

/-- May the first hit stand before the second? -/
def le (order : SortOrder) (a b : Hit) : Bool :=
  order.compare a b ≠ .gt

/-- The hits in order; hits that compare equal keep their places relative to each other. -/
def sort (order : SortOrder) (hits : List Hit) : List Hit :=
  hits.mergeSort order.le

end SortOrder

end LiveSearch
