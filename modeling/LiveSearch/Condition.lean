import LiveSearch.State
import LiveSearch.Text.Decimal
import LiveSearch.Text.Quoted

/-!
# Conditions

A query is a list of **conditions**. Each names a field of the items, says how the field is compared
and gives the value to compare with.

* `Condition.isUsable` – does the condition carry a value? A condition whose text is blank or whose
  list of states is empty is passed over by the index.
* `Specifier.isNegation` – the comparisons that look for the opposite.

The `description` of a field, a comparison or a value is its spelling in error messages.
-/

namespace LiveSearch

open Text

/-- A **field** that can be searched. -/
inductive Field where
  | allFields
  | title
  | content
  | author
  | category
  | label
  | feed
  | link
  | state
  | flagged
  | published
  | received
deriving DecidableEq, Inhabited

/-- A way to **compare** a field with a value. -/
inductive Specifier where
  | is
  | isNot
  | contains
  | containsAll
  | containsNot
  | beginsWith
  | endsWith
  | isBefore
  | isAfter
deriving DecidableEq, Inhabited

/-- A **value** that a field is compared with. -/
inductive SearchValue where
  /-- A text. -/
  | text (s : String)
  /-- A set of states. -/
  | states (chosen : List State)
  /-- A truth value. -/
  | bool (b : Bool)
  /-- A time in seconds since the beginning of 1970. -/
  | date (time : UInt64)
deriving DecidableEq, Inhabited

/-- A **condition** on items. -/
structure Condition where
  /-- The field that is compared. -/
  field : Field
  /-- The kind of thing that is searched. -/
  entity : String := "news"
  /-- How the field is compared. -/
  specifier : Specifier
  /-- What it is compared with. -/
  value : SearchValue
deriving DecidableEq, Inhabited

namespace Field

/-- All fields. -/
def all : List Field :=
  [.allFields, .title, .content, .author, .category, .label, .feed, .link, .state, .flagged,
    .published, .received]

/-- The name of a field in JSON. -/
def name : Field → String
  | .allFields => "all_fields"
  | .title => "title"
  | .content => "content"
  | .author => "author"
  | .category => "category"
  | .label => "label"
  | .feed => "feed"
  | .link => "link"
  | .state => "state"
  | .flagged => "flagged"
  | .published => "published"
  | .received => "received"

/-- The field with a name. -/
def ofName? (name : String) : Option Field :=
  all.find? (·.name = name)

/-- The spelling of a field in messages. -/
def description : Field → String
  | .allFields => "AllFields"
  | .title => "Title"
  | .content => "Content"
  | .author => "Author"
  | .category => "Category"
  | .label => "Label"
  | .feed => "Feed"
  | .link => "Link"
  | .state => "State"
  | .flagged => "Flagged"
  | .published => "Published"
  | .received => "Received"

end Field

namespace Specifier

/-- All comparisons. -/
def all : List Specifier :=
  [.is, .isNot, .contains, .containsAll, .containsNot, .beginsWith, .endsWith, .isBefore, .isAfter]

/-- The name of a comparison in JSON. -/
def name : Specifier → String
  | .is => "is"
  | .isNot => "is_not"
  | .contains => "contains"
  | .containsAll => "contains_all"
  | .containsNot => "contains_not"
  | .beginsWith => "begins_with"
  | .endsWith => "ends_with"
  | .isBefore => "is_before"
  | .isAfter => "is_after"

/-- The comparison with a name. -/
def ofName? (name : String) : Option Specifier :=
  all.find? (·.name = name)

/-- The spelling of a comparison in messages. -/
def description : Specifier → String
  | .is => "Is"
  | .isNot => "IsNot"
  | .contains => "Contains"
  | .containsAll => "ContainsAll"
  | .containsNot => "ContainsNot"
  | .beginsWith => "BeginsWith"
  | .endsWith => "EndsWith"
  | .isBefore => "IsBefore"
  | .isAfter => "IsAfter"

/-- Does the comparison look for the opposite of another one? -/
def isNegation : Specifier → Bool
  | .isNot | .containsNot => true
  | _ => false

end Specifier

/-- The spelling of a state in messages. -/
def State.description : State → String
  | .new => "New"
  | .unread => "Unread"
  | .updated => "Updated"
  | .read => "Read"
  | .hidden => "Hidden"
  | .deleted => "Deleted"

namespace SearchValue

/-- The spelling of a value in messages. -/
def description : SearchValue → String
  | .text s => "Text(" ++ quoted s ++ ")"
  | .states chosen => "States([" ++ String.intercalate ", " (chosen.map State.description) ++ "])"
  | .bool b => if b then "Bool(true)" else "Bool(false)"
  | .date time => "Date(" ++ Decimal.render time.toNat ++ ")"

/-- Does the value say anything? A blank text and an empty list of states do not. -/
def isUsable : SearchValue → Bool
  | .text s => !isBlankText s
  | .states chosen => !chosen.isEmpty
  | .bool _ | .date _ => true

end SearchValue

namespace Condition

/-- A condition on a text. -/
def onText (field : Field) (specifier : Specifier) (s : String) : Condition :=
  { field, specifier, value := .text s }

/-- Does the condition carry a value? -/
def isUsable (c : Condition) : Bool :=
  c.value.isUsable

end Condition

end LiveSearch
