import LiveSearch.Item
import LiveSearch.Json.Parser
import LiveSearch.Json.Record

/-!
# Items as JSON

* `Item.toJson`, `Item.ofJson?` – the form in which an item is stored and shown: all its fields in
  a fixed order. On reading, the descriptive fields may be missing; reference, feed, identifier,
  title, state and time of arrival may not.
* `Item.ofRecord?` – the form in which items are **imported**: without a reference, which is derived
  from feed and identifier, and with the title as the only other field that has to be there.
* `Item.ofImport?` – a whole import, a list of such records.
-/

namespace LiveSearch

namespace State

/-- A state as JSON: its name. -/
def toJson (state : State) : Json :=
  Json.ofString state.name

/-- Reads a state. -/
def ofJson? (value : Json) : Option State :=
  value.name?.bind ofName?

end State

namespace Item

/-- A time that may be missing. -/
def timeToJson : Option UInt64 → Json
  | some time => .natural time.toNat
  | none => .null

/-- A list of texts. -/
def textsToJson (texts : List String) : Json :=
  .array (texts.map Json.ofString)

/-- An item as JSON. -/
def toJson (item : Item) : Json :=
  .record
    [("item_ref", .natural item.ref.value.toNat),
      ("feed", .ofString item.feed),
      ("guid", .ofString item.guid),
      ("title", .ofString item.title),
      ("author", .ofString item.author),
      ("link", .ofString item.link),
      ("content", .ofString item.content),
      ("categories", textsToJson item.categories),
      ("labels", textsToJson item.labels),
      ("state", item.state.toJson),
      ("flagged", .bool item.flagged),
      ("published", timeToJson item.published),
      ("modified", timeToJson item.modified),
      ("received", .natural item.received.toNat)]

/-- The names of the fields of a stored item. -/
def fieldNames : List String :=
  ["item_ref", "feed", "guid", "title", "author", "link", "content", "categories", "labels",
    "state", "flagged", "published", "modified", "received"]

/-- Reads a stored item. -/
def ofJson? (value : Json) : Option Item := do
  let fields ← value.fields? fieldNames
  return {
    ref := ⟨← Json.required? Json.word? fields 0⟩
    feed := ← Json.required? Json.string? fields 1
    guid := ← Json.required? Json.string? fields 2
    title := ← Json.required? Json.string? fields 3
    author := ← Json.optional? Json.string? "" fields 4
    link := ← Json.optional? Json.string? "" fields 5
    content := ← Json.optional? Json.string? "" fields 6
    categories := ← Json.optional? (Json.list? Json.string?) [] fields 7
    labels := ← Json.optional? (Json.list? Json.string?) [] fields 8
    state := ← Json.required? State.ofJson? fields 9
    flagged := ← Json.optional? Json.bool? false fields 10
    published := ← Json.optional? (Json.nullable? Json.word?) none fields 11
    modified := ← Json.optional? (Json.nullable? Json.word?) none fields 12
    received := ← Json.required? Json.word? fields 13 }

/-- The names of the fields of an imported record. -/
def recordFieldNames : List String :=
  fieldNames.drop 1

/-- Reads an imported record as an item. -/
def ofRecord? (value : Json) : Option Item := do
  let fields ← value.fields? recordFieldNames
  let feed ← Json.required? Json.string? fields 0
  let guid ← Json.required? Json.string? fields 1
  return {
    ref := Reference.derive feed guid
    feed
    guid
    title := ← Json.required? Json.string? fields 2
    author := ← Json.optional? Json.string? "" fields 3
    link := ← Json.optional? Json.string? "" fields 4
    content := ← Json.optional? Json.string? "" fields 5
    categories := ← Json.optional? (Json.list? Json.string?) [] fields 6
    labels := ← Json.optional? (Json.list? Json.string?) [] fields 7
    state := ← Json.optional? State.ofJson? .new fields 8
    flagged := ← Json.optional? Json.bool? false fields 9
    published := ← Json.optional? (Json.nullable? Json.word?) none fields 10
    modified := ← Json.optional? (Json.nullable? Json.word?) none fields 11
    received := ← Json.optional? Json.word? 0 fields 12 }

/-- Reads a whole import. -/
def ofImport? (value : Json) : Option (List Item) :=
  value.list? ofRecord?

/-- The text that an item is stored as. -/
def encode (item : Item) : List Char :=
  item.toJson.compact

/-- The item that a stored text stands for. -/
def decode? (text : List Char) : Option Item :=
  (Json.parse? text).bind ofJson?

end Item

end LiveSearch
