import LiveSearch.Item.Exchange
import LiveSearch.Mutation

/-!
# Events as JSON

* `Event.toJson`, `Event.ofJson?` – a record of reference, kind and snapshot, of which only the
  snapshot may be missing. A kind that is not known is read as such, so that a later version can
  publish events that this one passes over.
-/

namespace LiveSearch

/-- A kind of thing as JSON. -/
def EntityKind.toJson (kind : EntityKind) : Json :=
  .ofString kind.name

/-- Reads a kind of thing. -/
def EntityKind.ofJson? (value : Json) : Option EntityKind :=
  value.name?.bind EntityKind.ofName?

namespace Event

/-- An event as JSON. -/
def toJson (e : Event) : Json :=
  .record
    [("item_ref", .natural e.ref.value.toNat),
      ("kind", .ofString e.kind.name),
      ("snapshot", (e.snapshot.map Item.toJson).getD .null)]

/-- Reads an event. -/
def ofJson? (value : Json) : Option Event := do
  let fields ← value.fields? ["item_ref", "kind", "snapshot"]
  return {
    ref := ⟨← Json.required? Json.word? fields 0⟩
    kind := ← Json.required? (fun v => v.name?.map MutationKind.ofName) fields 1
    snapshot := ← Json.optional? (Json.nullable? Item.ofJson?) none fields 2 }

/-- The text of an event. -/
def encode (e : Event) : List Char :=
  e.toJson.compact

/-- The event that a text stands for. -/
def decode? (text : List Char) : Option Event :=
  (Json.parse? text).bind ofJson?

end Event

end LiveSearch
