import LiveSearch.Item.Exchange
import LiveSearch.Reconcile.Recheck
import LiveSearch.Table
import LiveSearch.Text.Lowercase

/-!
# The store

The **store** keeps the items, each under its reference and in its JSON text, and the settings. It
is what remains when the program ends.

* `Store.put`, `Store.putAll`, `Store.remove` – writing items.
* `Store.get` – reading an item back. Reading fails if the stored text is not an item.
* `Store.resolve` – the lookup that result sets use.
* `Store.findByAbbreviation` – the stored references that begin with some digits.
-/

namespace LiveSearch

open Text

instance : Ord Reference where
  compare a b := compare a.value.toNat b.value.toNat

/-- The stored items and settings. -/
structure Store where
  /-- The texts of the items, by reference. -/
  items : Table Reference (List Char) := {}
  /-- The values of the settings, by key. -/
  settings : Table String String := {}
deriving DecidableEq, Inhabited

namespace Store

/-! ### Items -/

/-- The store with a text under a reference. -/
def putText (s : Store) (ref : Reference) (text : List Char) : Store :=
  { s with items := s.items.insert ref text }

/-- The store with texts under references, written one after the other. -/
def putTexts (s : Store) (entries : List (Reference × List Char)) : Store :=
  entries.foldl (fun s (ref, text) => s.putText ref text) s

/-- The store with an item under its reference. -/
def put (s : Store) (item : Item) : Store :=
  s.putText item.ref item.encode

/-- The store with the items of a list, written one after the other. -/
def putAll (s : Store) (items : List Item) : Store :=
  items.foldl put s

/-- The item under a reference, if there is one. -/
def get (s : Store) (ref : Reference) : Except Failure (Option Item) :=
  match s.items.get? ref with
  | none => .ok none
  | some text =>
    match Item.decode? text with
    | some item => .ok (some item)
    | none => .error .malformedJson

/-- Is there a text under the reference? -/
def contains (s : Store) (ref : Reference) : Bool :=
  s.items.contains ref

/-- The store without an item. -/
def remove (s : Store) (ref : Reference) : Store :=
  { s with items := s.items.erase ref }

/-- The number of items. -/
def count (s : Store) : Nat :=
  s.items.size

/-- The failure of looking up an item that is not there. -/
def missing (ref : Reference) : Failure :=
  .notFound "news item" ref.display

/-- Looks up an item. -/
def resolve (s : Store) : Resolver := fun ref =>
  match s.get ref with
  | .ok (some item) => .ok item
  | .ok none => .error (missing ref)
  | .error e => .error e

/-- The stored references whose digits begin with a text, in ascending order. The text may begin
with a number sign, and its letters may be of either case. -/
def findByAbbreviation (s : Store) (text : String) : List Reference :=
  let digits := lowercase (Reference.withoutSign text.toList)
  s.items.keys.filter fun ref => digits.isPrefixOf ref.digits

/-- The one stored reference that a text abbreviates. -/
def findReference (s : Store) (text : String) : Except Failure Reference :=
  match s.findByAbbreviation text with
  | [] => .error (.notFound "news item" text)
  | [ref] => .ok ref
  | several => .error (.ambiguous text several.length)

/-! ### Settings -/

/-- The store with a value for a setting. -/
def putSetting (s : Store) (key value : String) : Store :=
  { s with settings := s.settings.insert key value }

/-- The stored value of a setting. -/
def setting? (s : Store) (key : String) : Option String :=
  s.settings.get? key

end Store

end LiveSearch
