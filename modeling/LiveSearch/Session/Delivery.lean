import LiveSearch.Session

/-!
# Deliveries to a session

What the messages and the batches of events that arrive do to a session.

* `Session.complete` – **the answer to a query** is accepted only for the latest number and only
  while the query runs. Its hits reflect everything published before the query was issued, so the
  plan under way and the batches that wait for it are dropped; the events that arrived while the
  query ran are replayed over the hits.
* `Session.handleBatch` – **a batch of events** changes the hits at once, or is planned first if it
  is large, or waits if a plan is under way. While a query runs it is kept for its hits as well.
* `Session.applyPlan` – a plan arrives, and the batches that waited for it have their turn. Where no
  plan was made the batch is applied without one.
* `Session.attachResolved` – looked-up items arrive.
-/

namespace LiveSearch

/-- What a delivery has done. -/
inductive Update where
  /-- The query was answered; `replayed` counts what the events that arrived meanwhile have done. -/
  | completed (sequence hits : Nat) (replayed : Outcome)
  /-- The query has failed. -/
  | failed (sequence : Nat) (error : String)
  /-- The answer to an older query was dropped. -/
  | stale (sequence : Nat)
  /-- Events were applied to the hits. -/
  | reconciled (outcome : Outcome)
  /-- A large batch is being planned. -/
  | planning (events : Nat)
  /-- A batch waits for the plan that is under way. -/
  | deferred (events : Nat)
  /-- Looked-up items were attached to their hits, and hits whose items do not exist were
  dropped. -/
  | materialized (attached missing : Nat)
  /-- The work was for hits that have been replaced or cleared since. -/
  | outdated
deriving DecidableEq, Inhabited

/-- What a delivery leads to: the session after it, what it has done, and new work. -/
structure Reaction where
  session : Session
  update : Update
  work : List Work := []
deriving Inhabited

namespace Session

/-! ### Batches of events -/

/-- Is a batch of this size planned in the background? -/
def plansInBackground (s : Session) (size : Nat) : Bool :=
  match s.listener with
  | some listener => listener.plansInBackground size
  | none => false

/-- Applies a batch to the hits at once. -/
def reconcileNow (s : Session) (batch : List Event) : Reaction :=
  let (results, outcome) := reconcile batch s.results
  { session := { s with results }, update := .reconciled outcome }

/-- Begins to plan a batch. -/
def startPlan (s : Session) (batch : List Event) : Reaction :=
  { session := { s with planning := some s.results.generation }
    update := .planning batch.length
    work := [.plan s.results.generation batch s.results.refs] }

/-- Lets a batch wait for the plan under way. -/
def defer (s : Session) (batch : List Event) : Reaction :=
  { session := { s with deferred := s.deferred ++ [batch] }, update := .deferred batch.length }

/-- Decides what happens to a batch. Where there are no hits there is nothing to do. -/
def dispatch (s : Session) (batch : List Event) : Reaction :=
  if s.results.isEmpty then { session := s, update := .reconciled {} }
  else if s.planning.isSome then s.defer batch
  else if s.plansInBackground batch.length then s.startPlan batch
  else s.reconcileNow batch

/-- Keeps the events of a batch for the hits of the query that runs. -/
def remember (s : Session) (batch : List Event) : Session :=
  if s.phase = .running then { s with replay := s.replay.extend batch } else s

/-- **A batch of events arrives.** -/
def handleBatch (s : Session) (batch : List Event) : Reaction :=
  (s.remember batch).dispatch batch

/-! ### Plans -/

/-- Gives the waiting batches their turn, until one of them has to be planned itself. -/
def drain : List (List Event) → Session → Outcome → Reaction
  | [], s, total => { session := { s with deferred := [] }, update := .reconciled total }
  | batch :: rest, s, total =>
    let reaction := dispatch { s with deferred := rest } batch
    match reaction.update with
    | .reconciled more => drain rest reaction.session (total.add more)
    | _ => { reaction with update := .reconciled total }

/-- What a plan does to the hits. A batch that comes without a plan is applied at once. -/
def carryOut (plan : Except (List Event) Plan) (rs : ResultSet) : ResultSet × Outcome :=
  match plan with
  | .ok plan => plan.apply rs
  | .error batch => reconcile batch rs

/-- **A plan arrives.** It counts only if it is the one waited for and the hits are still those that
it was made for. -/
def applyPlan (s : Session) (generation : Nat) (plan : Except (List Event) Plan) : Reaction :=
  if s.planning = some generation ∧ s.results.generation = generation then
    let (results, outcome) := carryOut plan s.results
    drain s.deferred { s with results, planning := none } outcome
  else { session := s, update := .outdated }

/-! ### Looked-up items -/

/-- Attaches items to their hits and counts the hits that carried none. -/
def attachAll : List Item → ResultSet → ResultSet × Nat
  | [], rs => (rs, 0)
  | item :: rest, rs =>
    let (after, count) := attachAll rest (rs.attach item)
    (after, if rs.lacksItem item.ref then count + 1 else count)

/-- **Looked-up items arrive.** Hits whose items do not exist go. -/
def attachResolved (s : Session) (generation : Nat) (items : List Item)
    (missing : List Reference) : Reaction :=
  if s.results.generation = generation then
    let (attached, count) := attachAll items s.results
    let kept := attached.removeAll missing
    { session := { s with results := kept }
      update := .materialized count (attached.size - kept.size) }
  else { session := s, update := .outdated }

/-! ### Answers -/

/-- Replays over new hits what has arrived while their query ran. The references whose events had
to give way are looked up again. -/
def replayOver (resolver : Resolver) (replay : Replay) (rs : ResultSet) : ResultSet × Outcome :=
  let (replayed, first) := reconcile replay.events rs
  let (rechecked, second) := recheck replay.evicted resolver replayed
  (rechecked, first.add second)

/-- The work of looking up the items of the first hits, if there is any. -/
def eagerLookups (s : Session) : List Work :=
  let hits := s.results.hits.take s.settings.eagerResolveCount
  let refs := (hits.filter (·.item.isNone)).map (·.ref)
  if refs.isEmpty then [] else [.resolve s.results.generation refs]

/-- Installs the hits of the query that runs. -/
def install (resolver : Resolver) (s : Session) (hits : List RankedHit) : Reaction :=
  let (replay, buffer) := s.replay.take
  let (results, replayed) := replayOver resolver replay (s.results.replace (Hit.classify hits))
  let after :=
    { s with results, phase := .completed, replay := buffer, deferred := [], planning := none }
  { session := after
    update := .completed s.sequence results.size replayed
    work := after.eagerLookups }

/-- Reports that the query that runs has failed. -/
def fail (s : Session) (e : Failure) : Reaction :=
  { session := { s.resetResults with phase := .failed, error := some e.message }
    update := .failed s.sequence e.message }

/-- **The answer to a query arrives.** -/
def complete (resolver : Resolver) (s : Session) (sequence : Nat)
    (answer : Except Failure (List RankedHit)) : Reaction :=
  if sequence = s.sequence ∧ s.phase = .running then
    match answer with
    | .ok hits => s.install resolver hits
    | .error e => s.fail e
  else { session := s, update := .stale sequence }

/-! ### Any delivery -/

/-- A message arrives. -/
def handleMessage (resolver : Resolver) (s : Session) : Message → Reaction
  | .answered sequence answer => s.complete resolver sequence answer
  | .resolved generation items missing => s.attachResolved generation items missing
  | .planned generation plan => s.applyPlan generation plan

end Session

end LiveSearch
