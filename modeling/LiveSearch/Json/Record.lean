import LiveSearch.Json

/-!
# Decoding records

How a JSON value is read as a number, a text, a list, one of several named alternatives, or a record
with named fields.

* `Json.fields?` – **the fields of a record**, in the order in which the record declares them. An
  object gives each field at most once and may have members that the record does not know; an array
  gives a first part of the fields by position.
* `Json.required?`, `Json.optional?` – a field that has to be there, and one with a default.
-/

namespace LiveSearch.Json

/-- A natural number of at most sixty-four bits, written as one. -/
def word? : Json → Option UInt64
  | .natural n => if n < Text.Decimal.wordLimit then some (UInt64.ofNat n) else none
  | _ => none

/-- A text. -/
def string? : Json → Option String
  | .text s => s
  | _ => none

/-- A truth value. -/
def bool? : Json → Option Bool
  | .bool b => some b
  | _ => none

/-- A list of values that `decode` accepts. -/
def list? {α : Type} (decode : Json → Option α) : Json → Option (List α)
  | .array xs => xs.mapM decode
  | _ => none

/-- A value that may be null. -/
def nullable? {α : Type} (decode : Json → Option α) : Json → Option (Option α)
  | .null => some none
  | value => (decode value).map some

/-- The name of an alternative without content: a text, or an object that gives it the null. -/
def name? : Json → Option String
  | .text s => s
  | .object [(some key, .null)] => some key
  | _ => none

/-- The name and the content of an alternative with content: an object with one member. -/
def tagged? : Json → Option (String × Json)
  | .object [(some key, value)] => some (key, value)
  | _ => none

/-- The values of the members with a key. -/
def valuesOf (members : List (Option String × Json)) (key : String) : List Json :=
  (members.filter (·.1 = some key)).map (·.2)

/-- The value of a field of an object: absent, or given once. -/
def fieldOf? (members : List (Option String × Json)) (key : String) : Option (Option Json) :=
  match valuesOf members key with
  | [] => some none
  | [value] => some (some value)
  | _ => none

/-- **The fields of a record** with the given names. -/
def fields? (names : List String) : Json → Option (List (Option Json))
  | .object members =>
    if members.all (·.1.isSome) then names.mapM (fieldOf? members) else none
  | .array values =>
    if values.length ≤ names.length then
      some (values.map some ++ List.replicate (names.length - values.length) none)
    else none
  | _ => none

/-- The field at a position, which has to be there. -/
def required? {α : Type} (decode : Json → Option α) (fields : List (Option Json)) (i : Nat) :
    Option α :=
  (fields.getD i none).bind decode

/-- The field at a position, or a default if it is absent. -/
def optional? {α : Type} (decode : Json → Option α) (fallback : α) (fields : List (Option Json))
    (i : Nat) : Option α :=
  match fields.getD i none with
  | none => some fallback
  | some value => decode value

end LiveSearch.Json
