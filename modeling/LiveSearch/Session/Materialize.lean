import LiveSearch.Session.Delivery

/-!
# Materializing hits

* `Session.materialize` – **the hits of a range with their items**. Items that are not there yet are
  looked up on the spot; hits whose items do not exist go, and hits whose items cannot be looked up
  for another reason stay, but are not shown.
-/

namespace LiveSearch.Session

/-- The references of the hits of a range; what lies behind the last hit does not count. -/
def refsOfRange (rs : ResultSet) (start stop : Nat) : List Reference :=
  (rs.refs.take stop).drop start

/-- The set after the items of the hits for some references have been looked up. -/
def materializeRefs (resolver : Resolver) (refs : List Reference) (rs : ResultSet) : ResultSet :=
  let pending := refs.filter rs.lacksItem
  ((attachAll (resolver.found pending) rs).1).removeAll (resolver.missing pending)

/-- The hits for some references that can be shown with their items. -/
def shown (rs : ResultSet) (refs : List Reference) : List Hit :=
  (refs.filterMap rs.get?).filter fun h => h.isVisible && h.item.isSome

/-- **The hits of a range with their items**, counted from zero; `stop` is the first position that
does not belong to it. -/
def materialize (resolver : Resolver) (s : Session) (start stop : Nat) :
    Except Failure (Session × List Hit) :=
  if s.isClosed then .error .sessionClosed
  else
    let refs := refsOfRange s.results start stop
    let results := materializeRefs resolver refs s.results
    .ok ({ s with results }, shown results refs)

end LiveSearch.Session
