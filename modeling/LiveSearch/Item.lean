import LiveSearch.Reference
import LiveSearch.State

/-!
# Items

An **item** is one piece of news in the version that the library holds.

* `Item.recentDate` – the date that an item is shown and sorted by: the time of its last
  modification, failing that of its publication, failing that of its arrival.
-/

namespace LiveSearch

/-- A piece of news. Times are seconds since the beginning of 1970. -/
structure Item where
  /-- What the item is known by. -/
  ref : Reference
  /-- The address of the feed that the item comes from. -/
  feed : String
  /-- The identifier that the feed gives the item. -/
  guid : String
  /-- The headline. -/
  title : String
  /-- Who wrote it. -/
  author : String := ""
  /-- Where it can be read. -/
  link : String := ""
  /-- The text. -/
  content : String := ""
  /-- The categories that the feed files it under. -/
  categories : List String := []
  /-- The labels that the reader has given it. -/
  labels : List String := []
  /-- Where it stands with the reader. -/
  state : State
  /-- Has the reader flagged it? -/
  flagged : Bool := false
  /-- When it was published. -/
  published : Option UInt64 := none
  /-- When it was last modified. -/
  modified : Option UInt64 := none
  /-- When it arrived. -/
  received : UInt64
deriving DecidableEq, Inhabited

namespace Item

/-- A new item with nothing but a title. -/
def fresh (feed guid title : String) (received : UInt64) : Item :=
  { ref := Reference.derive feed guid, feed, guid, title, state := .new, received }

/-- The date that an item is shown and sorted by. -/
def recentDate (item : Item) : UInt64 :=
  (item.modified.or item.published).getD item.received

/-- Is the item found by a search? -/
def isVisible (item : Item) : Bool :=
  item.state.isVisible

end Item

end LiveSearch
