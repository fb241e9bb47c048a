import LiveSearch.Condition
import LiveSearch.Item.Exchange

/-!
# Conditions as JSON

* `Condition.toJson`, `Condition.ofJson?` – a record of field, entity, comparison and value, all of
  which have to be there. The value is an object with one member, whose key tells its kind.
-/

namespace LiveSearch

namespace SearchValue

/-- A value as JSON. -/
def toJson : SearchValue → Json
  | .text s => .record [("text", .ofString s)]
  | .states chosen => .record [("states", .array (chosen.map State.toJson))]
  | .bool b => .record [("bool", .bool b)]
  | .date time => .record [("date", .natural time.toNat)]

/-- Reads a value. -/
def ofJson? (value : Json) : Option SearchValue :=
  match value.tagged? with
  | some ("text", content) => content.string?.map .text
  | some ("states", content) => (content.list? State.ofJson?).map .states
  | some ("bool", content) => content.bool?.map .bool
  | some ("date", content) => content.word?.map .date
  | _ => none

end SearchValue

namespace Condition

/-- A condition as JSON. -/
def toJson (c : Condition) : Json :=
  .record
    [("field", .ofString c.field.name),
      ("entity", .ofString c.entity),
      ("specifier", .ofString c.specifier.name),
      ("value", c.value.toJson)]

/-- Reads a condition. -/
def ofJson? (value : Json) : Option Condition := do
  let fields ← value.fields? ["field", "entity", "specifier", "value"]
  return {
    field := ← Json.required? (fun v => v.name?.bind Field.ofName?) fields 0
    entity := ← Json.required? Json.string? fields 1
    specifier := ← Json.required? (fun v => v.name?.bind Specifier.ofName?) fields 2
    value := ← Json.required? SearchValue.ofJson? fields 3 }

/-- The text of a condition. -/
def encode (c : Condition) : List Char :=
  c.toJson.compact

/-- The condition that a text stands for. -/
def decode? (text : List Char) : Option Condition :=
  (Json.parse? text).bind ofJson?

end Condition

end LiveSearch
