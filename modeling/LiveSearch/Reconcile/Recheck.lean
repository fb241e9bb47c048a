import LiveSearch.Failure
import LiveSearch.Reconcile.Plan

/-!
# Looking items up again

A **resolver** looks up the item of a reference. It fails in two ways that have to be told apart:
the item does not exist, or the lookup could not be carried out.

* `recheck` – looks up the items of some hits again and reconciles the set with what comes back. An
  item that does not exist is treated as deleted; any other failure leaves its hit alone.
* `retainExisting` – the hits of a query whose lookup succeeds.
-/

namespace LiveSearch

/-- Looks up items by reference. -/
abbrev Resolver := Reference → Except Failure Item

namespace Resolver

/-- Does a lookup succeed? -/
def finds (resolver : Resolver) (ref : Reference) : Bool :=
  (resolver ref).isOk

/-- Does a lookup say that the item does not exist? -/
def misses (resolver : Resolver) (ref : Reference) : Bool :=
  match resolver ref with
  | .error e => e.isNotFound
  | .ok _ => false

/-- The items of the lookups that succeed. -/
def found (resolver : Resolver) (refs : List Reference) : List Item :=
  refs.filterMap fun ref => (resolver ref).toOption

/-- The references of the lookups that say that there is no item. -/
def missing (resolver : Resolver) (refs : List Reference) : List Reference :=
  refs.filter resolver.misses

/-- The event that a lookup amounts to. -/
def event? (resolver : Resolver) (ref : Reference) : Option Event :=
  match resolver ref with
  | .ok item => some (Event.updated item)
  | .error e => if e.isNotFound then some (Event.deleted ref) else none

end Resolver

/-- Looks up the items of the hits for some references and reconciles the set with the answers. -/
def recheck (refs : List Reference) (resolver : Resolver) (rs : ResultSet) : ResultSet × Outcome :=
  reconcile ((refs.filter rs.contains).filterMap resolver.event?) rs

/-- The hits whose items can be looked up. -/
def retainExisting (hits : List RankedHit) (resolver : Resolver) : List RankedHit :=
  hits.filter fun h => resolver.finds h.ref

end LiveSearch
