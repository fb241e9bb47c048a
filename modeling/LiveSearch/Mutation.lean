import LiveSearch.Item

/-!
# Mutation events

Whoever changes an item publishes an **event**: which item, whether it was updated or deleted, and
for an update the item as it is now, the event's snapshot.

* `Event.action?` – **what an event asks of a result set**: to forget the item, or to show its new
  version. An update to a state that is not visible asks to forget the item. An event of an unknown
  kind, and an update without a snapshot of the very item it speaks of, is malformed and asks for
  nothing.
-/

namespace LiveSearch

/-- The kinds of things that events are published about. -/
inductive EntityKind where
  | news
  | feed
  | label
deriving DecidableEq, Inhabited

/-- The kinds of events. -/
inductive MutationKind where
  | updated
  | deleted
  /-- A kind that this version does not know. -/
  | unknown
deriving DecidableEq, Inhabited

/-- An **event**: one change to an item. -/
structure Event where
  /-- The item that was changed. -/
  ref : Reference
  /-- What happened to it. -/
  kind : MutationKind
  /-- The item after the change. -/
  snapshot : Option Item := none
deriving DecidableEq, Inhabited

/-- What an event asks of a result set. -/
inductive Action where
  /-- The item is to be forgotten. -/
  | remove
  /-- The item is to be shown in this version. -/
  | refresh (item : Item)
deriving DecidableEq, Inhabited

namespace Event

/-- The event of an update. -/
def updated (item : Item) : Event :=
  { ref := item.ref, kind := .updated, snapshot := some item }

/-- The event of a deletion. -/
def deleted (ref : Reference) : Event :=
  { ref, kind := .deleted }

/-- What the event asks of a result set, unless it is malformed. -/
def action? (e : Event) : Option Action :=
  match e.kind, e.snapshot with
  | .deleted, _ => some .remove
  | .updated, some item =>
    if item.ref = e.ref then some (if item.isVisible then .refresh item else .remove) else none
  | _, _ => none

end Event

namespace EntityKind

/-- The name of a kind of thing. -/
def name : EntityKind → String
  | .news => "news"
  | .feed => "feed"
  | .label => "label"

/-- The kind of thing with a name. -/
def ofName? (name : String) : Option EntityKind :=
  [EntityKind.news, .feed, .label].find? (·.name = name)

end EntityKind

namespace MutationKind

/-- The name of a kind of event. -/
def name : MutationKind → String
  | .updated => "updated"
  | .deleted => "deleted"
  | .unknown => "unknown"

/-- The kind of event with a name; every other name is that of an unknown kind. -/
def ofName (name : String) : MutationKind :=
  if name = "updated" then .updated else if name = "deleted" then .deleted else .unknown

end MutationKind

end LiveSearch
