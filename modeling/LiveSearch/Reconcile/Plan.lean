import LiveSearch.Mutation
import LiveSearch.ResultSet

/-!
# Reconciling a result set with events

A batch of events is turned into a **plan** – which hits to remove, which to refresh – and the plan
is applied to the set. Planning needs to know only which references are members, so it can be done
apart from the set, even against a membership that has become outdated: an event for a reference
that is no longer there changes nothing when the plan is applied.

* `Plan.ofEvents` – the plan of a batch. Of several events for one reference the last well-formed
  one counts.
* `Plan.apply` – all removals, then all refreshes, with the number of hits of either kind.
* `reconcile` – both in one go.
-/

namespace LiveSearch

/-- What a batch of events does to a result set. -/
structure Plan where
  /-- The references whose hits go. -/
  removals : List Reference := []
  /-- The new versions of the items whose hits stay. -/
  refreshes : List Item := []
  /-- The number of malformed events in the batch. -/
  skipped : Nat := 0
deriving DecidableEq, Inhabited

/-- How many hits a plan has removed and refreshed. -/
structure Outcome where
  removed : Nat := 0
  refreshed : Nat := 0
deriving DecidableEq, Inhabited

/-- The outcomes of two plans together. -/
def Outcome.add (a b : Outcome) : Outcome :=
  { removed := a.removed + b.removed, refreshed := a.refreshed + b.refreshed }

namespace Plan

/-- Does the plan change nothing? -/
def isEmpty (p : Plan) : Bool :=
  p.removals.isEmpty && p.refreshes.isEmpty

/-- The well-formed events for members, as references and actions. -/
def actions (events : List Event) (isMember : Reference → Bool) : List (Reference × Action) :=
  (events.filterMap fun e => e.action?.map fun a => (e.ref, a)).filter fun entry => isMember entry.1

/-- The last action for a reference. -/
def lastAction? (actions : List (Reference × Action)) (ref : Reference) : Option Action :=
  (actions.reverse.find? (·.1 = ref)).map (·.2)

/-- The references of a list of actions, each at its first place. -/
def touched (actions : List (Reference × Action)) : List Reference :=
  (actions.map (·.1)).eraseDups

/-- The new version that an action asks to show. -/
def refreshOf? : Action → Option Item
  | .remove => none
  | .refresh item => some item

/-- The number of malformed events. -/
def malformed (events : List Event) : Nat :=
  events.countP fun e => e.action?.isNone

/-- The plan of a batch of events against a membership. -/
def ofEvents (events : List Event) (isMember : Reference → Bool) : Plan :=
  let actions := actions events isMember
  let last := touched actions |>.map fun ref => (ref, lastAction? actions ref)
  { removals := (last.filter (·.2 = some .remove)).map (·.1)
    refreshes := last.filterMap fun entry => entry.2.bind refreshOf?
    skipped := malformed events }

/-- Refreshes the hits for the items of a list and counts the hits that are there. -/
def refreshAll : List Item → ResultSet → ResultSet × Nat
  | [], rs => (rs, 0)
  | item :: rest, rs =>
    let (after, count) := refreshAll rest (rs.refresh item)
    (after, if rs.contains item.ref then count + 1 else count)

/-- Applies a plan: every removal, then every refresh. -/
def apply (p : Plan) (rs : ResultSet) : ResultSet × Outcome :=
  let kept := rs.removeAll p.removals
  let (after, refreshed) := refreshAll p.refreshes kept
  (after, { removed := rs.size - kept.size, refreshed })

end Plan

/-- Plans a batch against the set and applies the plan to it. -/
def reconcile (events : List Event) (rs : ResultSet) : ResultSet × Outcome :=
  (Plan.ofEvents events rs.contains).apply rs

end LiveSearch
