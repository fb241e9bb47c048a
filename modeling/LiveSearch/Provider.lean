import LiveSearch.Condition.Validation
import LiveSearch.Reconcile.Recheck

/-!
# Asking an index

A **provider** answers queries with ranked hits; the library's own index is one.

* `Provider.execute` – **a checked query**: the conditions are validated first, a failure of the
  provider is reported as a failed search, and hits in a state that is not visible are dropped.
* `Sources` – what a session needs from elsewhere: the answers to its queries, and its items.
-/

namespace LiveSearch

/-- Answers the conditions of a query, of which all or any have to hold. -/
abbrev Provider := List Condition → Bool → Except Failure (List RankedHit)

/-- A failure as the failure of a search. One that is a failed search already stays as it is. -/
def Failure.asSearchFailed : Failure → Failure
  | .searchFailed detail => .searchFailed detail
  | other => .searchFailed other.message

namespace Provider

/-- The visible hits for valid conditions. -/
def ask (provider : Provider) (conditions : List Condition) (matchAll : Bool) :
    Except Failure (List RankedHit) :=
  match provider conditions matchAll with
  | .ok hits => .ok (hits.filter (·.state.isVisible))
  | .error e => .error e.asSearchFailed

/-- **A checked query.** -/
def execute (provider : Provider) (conditions : List Condition) (matchAll : Bool) :
    Except Failure (List RankedHit) :=
  match validateConditions conditions with
  | .ok () => provider.ask conditions matchAll
  | .error e => .error e

end Provider

/-- Where a session gets its hits and its items from. -/
structure Sources where
  /-- Answers queries. -/
  provider : Provider
  /-- Looks up items. -/
  resolver : Resolver

end LiveSearch
