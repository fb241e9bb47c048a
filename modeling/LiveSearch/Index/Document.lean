import LiveSearch.Hit
import LiveSearch.Text.Words

/-!
# Documents

The index holds a **document** for each item: the words of its texts, its whole values in lower
case, its numbers and times, and what a hit shows of it.

* `Document.ofItem` – the document of an item.
* `Document.bare` – a document with nothing but a reference, a title and the number of a state that
  this version need not know.

Whole values are put in lower case character by character. A whole value that takes more bytes than
the index can hold in one unit is left out.
-/

namespace LiveSearch

open Text

/-- The fields that are indexed word by word. -/
inductive WordField where
  | title
  | content
  | author
deriving DecidableEq, Inhabited

/-- The fields whose values are indexed as a whole. -/
inductive ValueField where
  | title
  | author
  | feed
  | link
  | category
  | label
deriving DecidableEq, Inhabited

/-- The fields that hold a small number. -/
inductive NumberField where
  | state
  | flagged
deriving DecidableEq, Inhabited

/-- The fields that hold a time. -/
inductive TimeField where
  | published
  | received
deriving DecidableEq, Inhabited

/-- What the index holds of an item. -/
structure Document where
  /-- The reference of the item. -/
  ref : Reference
  /-- The number of its state. -/
  stateCode : Nat
  /-- What a hit shows of it. -/
  attributes : Attributes
  /-- The words of the title. -/
  titleWords : List Token := []
  /-- The words of the content. -/
  contentWords : List Token := []
  /-- The words of the author. -/
  authorWords : List Token := []
  /-- The whole values. -/
  values : List (ValueField × Token) := []
  /-- One if the item is flagged, zero if it is not. -/
  flagCode : Option Nat := none
  /-- When it was published. -/
  published : Option UInt64 := none
  /-- When it arrived. -/
  received : Option UInt64 := none
deriving DecidableEq, Inhabited

namespace Document

/-- The number of bytes that a whole value may take. -/
def valueLimit : Nat := 65530

/-- A text as a whole value, unless it is too long. -/
def wholeValue? (s : String) : Option Token :=
  let token := lowerEach s.toList
  if byteLength token ≤ valueLimit then some token else none

/-- The whole values of an item before they are put in lower case. -/
def rawValues (item : Item) : List (ValueField × String) :=
  [(.feed, item.feed), (.link, item.link), (.title, item.title), (.author, item.author)] ++
    item.categories.map (.category, ·) ++ item.labels.map (.label, ·)

/-- The number that stands for a flag. -/
def codeOfFlag (flagged : Bool) : Nat :=
  if flagged then 1 else 0

/-- The document of an item. -/
def ofItem (item : Item) : Document :=
  { ref := item.ref
    stateCode := item.state.code
    attributes := Attributes.ofItem item
    titleWords := words item.title
    contentWords := words item.content
    authorWords := words item.author
    values := (rawValues item).filterMap fun (field, s) => (wholeValue? s).map (field, ·)
    flagCode := some (codeOfFlag item.flagged)
    published := item.published
    received := some item.received }

/-- A document with nothing but a reference, a title and the number of a state. -/
def bare (ref : Reference) (title : String) (stateCode : Nat) : Document :=
  { ref, stateCode, attributes := { title }, titleWords := words title }

/-- The words of a field. -/
def wordsOf (d : Document) : WordField → List Token
  | .title => d.titleWords
  | .content => d.contentWords
  | .author => d.authorWords

/-- The whole values of a field. -/
def valuesOf (d : Document) (field : ValueField) : List Token :=
  (d.values.filter (·.1 = field)).map (·.2)

/-- The number in a field. -/
def numberOf? (d : Document) : NumberField → Option Nat
  | .state => some d.stateCode
  | .flagged => d.flagCode

/-- The time in a field. -/
def timeOf? (d : Document) : TimeField → Option UInt64
  | .published => d.published
  | .received => d.received

/-- The state of the item, if this version knows it. -/
def state? (d : Document) : Option State :=
  State.ofCode? d.stateCode

end Document

end LiveSearch
