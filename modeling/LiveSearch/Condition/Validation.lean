import LiveSearch.Condition
import LiveSearch.Failure

/-!
# Which conditions make a query

* `Condition.accepts` – **the table**: which comparisons a field has with a value of which kind.
* `Condition.validate` – one condition.
* `validateConditions` – a whole query: it has a condition, one of its conditions carries a value,
  and each of them, also one that carries none, is valid.
-/

namespace LiveSearch

namespace Condition

/-- Is there such a comparison of the field with a value of this kind? -/
def accepts (value : SearchValue) (field : Field) (specifier : Specifier) : Bool :=
  match value, field with
  | .text _, .allFields | .text _, .title | .text _, .content | .text _, .author =>
    specifier ∈ [.is, .isNot, .contains, .containsAll, .containsNot, .beginsWith, .endsWith]
  | .text _, .category | .text _, .label | .text _, .feed | .text _, .link =>
    specifier ∈ [.is, .isNot, .beginsWith, .endsWith]
  | .states _, .state => specifier ∈ [.is, .isNot]
  | .bool _, .flagged => specifier ∈ [.is, .isNot]
  | .date _, .published | .date _, .received => specifier ∈ [.is, .isBefore, .isAfter]
  | _, _ => false

/-- Checks one condition. -/
def validate (c : Condition) : Except Failure Unit :=
  if c.entity ≠ "news" then
    .error (.invalidQuery ("unsupported entity '" ++ c.entity ++ "'"))
  else if accepts c.value c.field c.specifier then .ok ()
  else
    .error (.invalidQuery (c.field.description ++ " " ++ c.specifier.description ++
      " does not accept " ++ c.value.description))

end Condition

/-- Checks the conditions from the first on, up to the first that fails. -/
def validateEach : List Condition → Except Failure Unit
  | [] => .ok ()
  | c :: rest =>
    match c.validate with
    | .ok () => validateEach rest
    | .error e => .error e

/-- Checks the conditions of a query. -/
def validateConditions (conditions : List Condition) : Except Failure Unit :=
  if conditions.isEmpty then .error (.invalidQuery "no search conditions")
  else if !conditions.any Condition.isUsable then
    .error (.invalidQuery "no search condition carries a value")
  else validateEach conditions

end LiveSearch
