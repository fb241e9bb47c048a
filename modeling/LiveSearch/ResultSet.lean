import LiveSearch.Sorting

/-!
# Result sets

A **result set** is the ordered list of the hits of one session. A query replaces it as a whole;
between two queries hits only disappear, and those that stay keep their places until the set is
sorted again.

* `ResultSet.replace`, `ResultSet.clear` – the two changes that begin a new **generation**.
* `ResultSet.removeAll`, `ResultSet.refresh`, `ResultSet.attach` – the changes within one.
* `ResultSet.resort` – the stable sort under the chosen order.
* `ResultSet.position?`, `ResultSet.get?` – hits by reference.
-/

namespace LiveSearch

/-- The ordered hits of a session. -/
structure ResultSet where
  /-- The hits, in the order in which they are shown. -/
  hits : List Hit := []
  /-- The order that the next sort establishes. -/
  order : SortOrder := {}
  /-- How often the set has been replaced or cleared. -/
  generation : Nat := 0
deriving DecidableEq, Inhabited

namespace ResultSet

/-! ### Looking at a set -/

/-- The number of hits. -/
def size (rs : ResultSet) : Nat :=
  rs.hits.length

/-- Is there no hit? -/
def isEmpty (rs : ResultSet) : Bool :=
  rs.hits.isEmpty

/-- The references of the hits, in order. -/
def refs (rs : ResultSet) : List Reference :=
  rs.hits.map (·.ref)

/-- Is there a hit for the reference? -/
def contains (rs : ResultSet) (ref : Reference) : Bool :=
  rs.hits.any (·.ref = ref)

/-- The position of the hit for a reference. -/
def position? (rs : ResultSet) (ref : Reference) : Option Nat :=
  rs.hits.findIdx? (·.ref = ref)

/-- The hit for a reference. -/
def get? (rs : ResultSet) (ref : Reference) : Option Hit :=
  rs.hits.find? (·.ref = ref)

/-- The hits in a visible state, in order. -/
def visible (rs : ResultSet) : List Hit :=
  rs.hits.filter Hit.isVisible

/-! ### Replacing the whole -/

/-- The first hit of each reference, in order. -/
def firstOfEach : List Hit → List Hit
  | [] => []
  | h :: rest => h :: (firstOfEach rest).filter (·.ref ≠ h.ref)

/-- The set sorted under its order. -/
def resort (rs : ResultSet) : ResultSet :=
  { rs with hits := rs.order.sort rs.hits }

/-- The set with new hits: of the visible ones the first of each reference, sorted. -/
def replace (rs : ResultSet) (hits : List Hit) : ResultSet :=
  resort
    { rs with
      hits := firstOfEach (hits.filter Hit.isVisible)
      generation := rs.generation + 1 }

/-- The set without hits. -/
def clear (rs : ResultSet) : ResultSet :=
  { rs with hits := [], generation := rs.generation + 1 }

/-- The set with another order, which the next sort establishes. -/
def setOrder (rs : ResultSet) (order : SortOrder) : ResultSet :=
  { rs with order }

/-! ### Changing single hits -/

/-- The set without the hits for the given references. -/
def removeAll (rs : ResultSet) (refs : List Reference) : ResultSet :=
  { rs with hits := rs.hits.filter (·.ref ∉ refs) }

/-- The set with the hit for a reference changed in place. -/
def modify (rs : ResultSet) (ref : Reference) (f : Hit → Hit) : ResultSet :=
  { rs with hits := rs.hits.map fun h => if h.ref = ref then f h else h }

/-- The set with the state, the attributes and the item of a new version in the hit for it. -/
def refresh (rs : ResultSet) (item : Item) : ResultSet :=
  rs.modify item.ref (·.refreshed item)

/-- The set with a looked-up item in the hit for it. A hit that carries an item already, which may
be a newer version, keeps it. -/
def attach (rs : ResultSet) (item : Item) : ResultSet :=
  rs.modify item.ref (·.attached item)

/-- Would attaching the item change the set? -/
def lacksItem (rs : ResultSet) (ref : Reference) : Bool :=
  rs.hits.any fun h => h.ref = ref ∧ h.item.isNone

end ResultSet

end LiveSearch
