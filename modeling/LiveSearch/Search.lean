import LiveSearch.Provider
import LiveSearch.Session.Materialize

/-!
# One search

A search that is carried out as a whole: a session is opened, asked, waited for and closed.

* `SearchRequest.conditions` – the conditions of a request, in a fixed order.
* `SearchRequest.execute` – **the hits of a request with their items**, and the number of all hits.
-/

namespace LiveSearch

/-- What is asked for in one search. -/
structure SearchRequest where
  /-- Words of which one field has to contain all. -/
  text : Option String := none
  /-- Words for the title. -/
  title : Option String := none
  /-- Words for the text of the item. -/
  content : Option String := none
  /-- Words for the author. -/
  author : Option String := none
  /-- The address of the feed. -/
  feed : Option String := none
  category : Option String := none
  label : Option String := none
  /-- The states that are wanted; none of them means all. -/
  chosen : List State := []
  flagged : Option Bool := none
  /-- The time after which the item was published. -/
  after : Option UInt64 := none
  /-- The time before which the item was published. -/
  before : Option UInt64 := none
  /-- Is one matching condition enough? -/
  any : Bool := false
  sort : Option SortKey := none
  ascending : Bool := false
  /-- How many hits are wanted. -/
  limit : Option Nat := none
deriving DecidableEq, Inhabited

/-- What one search finds. -/
structure SearchFindings where
  /-- The number of all hits. -/
  total : Nat
  /-- The hits that were wanted. -/
  hits : List Hit
deriving DecidableEq, Inhabited

namespace SearchRequest

/-! ### Conditions -/

/-- The texts of a request with the fields and comparisons that they are for. -/
def texts (r : SearchRequest) : List (Field × Specifier × Option String) :=
  [(.allFields, .containsAll, r.text), (.title, .contains, r.title),
    (.content, .contains, r.content), (.author, .contains, r.author), (.feed, .is, r.feed),
    (.category, .is, r.category), (.label, .is, r.label)]

/-- The conditions on texts. -/
def textConditions (r : SearchRequest) : List Condition :=
  r.texts.filterMap fun (field, specifier, value) => value.map (Condition.onText field specifier)

/-- The condition on the state. -/
def stateConditions (r : SearchRequest) : List Condition :=
  if r.chosen.isEmpty then []
  else [{ field := .state, specifier := .is, value := .states r.chosen }]

/-- The condition on the flag. -/
def flagConditions (r : SearchRequest) : List Condition :=
  r.flagged.toList.map fun b => { field := .flagged, specifier := .is, value := .bool b }

/-- The conditions on the time of publication. -/
def timeConditions (r : SearchRequest) : List Condition :=
  (r.after.toList.map fun t => { field := .published, specifier := .isAfter, value := .date t }) ++
    r.before.toList.map fun t => { field := .published, specifier := .isBefore, value := .date t }

/-- The conditions of a request. -/
def conditions (r : SearchRequest) : List Condition :=
  r.textConditions ++ r.stateConditions ++ r.flagConditions ++ r.timeConditions

/-! ### Carrying out -/

/-- The session of a request that has been asked and answered. Nobody else sees it. -/
def answered (sources : Sources) (settings : Settings) (r : SearchRequest) :
    Except Failure Session := do
  let running ← (Session.fresh settings 0).issue r.conditions
  let answer := sources.provider.execute r.conditions (!r.any)
  let work := Work.query running.sequence answer settings.verifyExistence
  return (running.handleMessage sources.resolver (work.finish sources.resolver)).session

/-- The session sorted as the request asks, if it asks for an order. -/
def sorted (r : SearchRequest) (s : Session) : Session :=
  match r.sort with
  | some key => (s.setOrder { key, ascending := r.ascending }).resort
  | none => s

/-- **Carries out a request.** -/
def execute (sources : Sources) (settings : Settings) (r : SearchRequest) :
    Except Failure SearchFindings := do
  let session ← r.answered sources settings
  if session.phase = .failed then
    throw (.searchFailed (session.error.getD ""))
  let session := r.sorted session
  let stop := r.limit.getD session.results.size
  let (session, hits) ← session.materialize sources.resolver 0 stop
  return { total := session.results.size, hits }

end SearchRequest

end LiveSearch
