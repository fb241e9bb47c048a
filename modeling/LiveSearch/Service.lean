import LiveSearch.Provider
import LiveSearch.Session.Materialize

/-!
# The search service

The **service** keeps the open sessions, each at a **desk** with an inbox for its messages, the bus
that they listen to, and the work that they have begun. Work ends when the service is **settled**;
a query may be held back beyond that until it is released.

* `Service.openSession`, `Service.search`, `Service.drop` – sessions come and go.
* `Service.issue`, `Service.release` – queries begin, and those held back are let go.
* `Service.settle` – **all work that is not held back ends**, and its messages are put into the
  inboxes: those of queries and plans first, those of lookups behind them.
* `Service.step?` – a session takes the next message, or if there is none the next batch of events.
* `Service.pump`, `Service.next`, `Service.wait` – a session takes all that is there, or one thing,
  or as much as it needs to see its query answered.
-/

namespace LiveSearch

/-- A session with the messages that have arrived for it. -/
structure Desk where
  /-- The number of the session. -/
  id : Nat
  session : Session
  /-- The messages, the oldest first. -/
  inbox : List Message := []
deriving Inhabited

/-- Work that is under way. -/
structure Undertaking where
  /-- The number of the session that has begun it. -/
  desk : Nat
  work : Work
  /-- The number of the query, if it is held back. -/
  heldAs : Option Nat := none
deriving Inhabited

/-- The sessions with their bus and their work. -/
structure Service where
  /-- The settings that sessions are opened with. -/
  settings : Settings := {}
  bus : Bus := {}
  desks : List Desk := []
  /-- How many sessions have been opened. -/
  opened : Nat := 0
  /-- How many queries have been issued. -/
  issued : Nat := 0
  /-- The work under way, in the order in which it was begun. -/
  underWay : List Undertaking := []
deriving Inhabited

namespace Service

/-! ### Sessions -/

/-- The desk of a session. -/
def desk? (svc : Service) (id : Nat) : Option Desk :=
  svc.desks.find? (·.id = id)

/-- The service with a desk in a new condition. -/
def put (svc : Service) (desk : Desk) : Service :=
  { svc with desks := svc.desks.map fun d => if d.id = desk.id then desk else d }

/-- The service with a session in a new condition. -/
def modify (svc : Service) (id : Nat) (f : Session → Session) : Service :=
  { svc with
    desks := svc.desks.map fun d => if d.id = id then { d with session := f d.session } else d }

/-- The subscription of a session. -/
def subscription? (svc : Service) (id : Nat) : Option Nat := do
  let desk ← svc.desk? id
  let listener ← desk.session.listener
  return listener.subscription

/-- The service with the subscription of a session given up. -/
def unsubscribe (svc : Service) (id : Nat) : Service :=
  match svc.subscription? id with
  | some subscription => { svc with bus := svc.bus.unsubscribe subscription }
  | none => svc

/-- Opens a session and gives its number. -/
def openSession (svc : Service) : Service × Nat :=
  let (bus, subscription) := svc.bus.subscribe .news
  ({ svc with
      bus
      desks := svc.desks ++ [{ id := svc.opened, session := .fresh svc.settings subscription }]
      opened := svc.opened + 1 }, svc.opened)

/-- Closes a session, which stays at its desk. -/
def close (svc : Service) (id : Nat) : Service :=
  (svc.unsubscribe id).modify id Session.close

/-- Sends a session away, with its desk and its work. -/
def drop (svc : Service) (id : Nat) : Service :=
  let svc := svc.unsubscribe id
  { svc with
    desks := svc.desks.filter (·.id ≠ id)
    underWay := svc.underWay.filter (·.desk ≠ id) }

/-- Publishes a batch of events, and counts the subscriptions that it reaches. -/
def publish (svc : Service) (entity : EntityKind) (batch : List Event) : Service × Nat :=
  let (bus, count) := svc.bus.publish entity batch
  ({ svc with bus }, count)

/-! ### Queries -/

/-- The service after a session has begun a query, which is answered from the sources as they are
now. With `hold` the answer is held back. -/
def begin (sources : Sources) (svc : Service) (id : Nat) (running : Session)
    (conditions : List Condition) (matchAll hold : Bool) : Service :=
  let answer := sources.provider.execute conditions matchAll
  let work := Work.query running.sequence answer running.settings.verifyExistence
  let undertaking := { desk := id, work, heldAs := if hold then some svc.issued else none }
  let svc := svc.modify id fun _ => running
  { svc with issued := svc.issued + 1, underWay := svc.underWay ++ [undertaking] }

/-- Issues a query and gives its number in the session. -/
def issue (sources : Sources) (svc : Service) (id : Nat) (conditions : List Condition)
    (matchAll hold : Bool) : Except Failure (Service × Nat) :=
  match svc.desk? id with
  | none => .error .sessionClosed
  | some desk =>
    match desk.session.issue conditions with
    | .ok running =>
      .ok (svc.begin sources id running conditions matchAll hold, running.sequence)
    | .error e => .error e

/-- Opens a session with a query and gives the number of the session. -/
def search (sources : Sources) (svc : Service) (conditions : List Condition)
    (matchAll hold : Bool) : Except Failure (Service × Nat) :=
  let (opened, id) := svc.openSession
  match opened.issue sources id conditions matchAll hold with
  | .ok (svc, _) => .ok (svc, id)
  | .error e => .error e

/-- Lets the answer of a query go that was held back; queries are counted from zero over all
sessions. -/
def release (svc : Service) (query : Nat) : Service :=
  { svc with
    underWay := svc.underWay.map fun u =>
      if u.heldAs = some query then { u with heldAs := none } else u }

/-! ### Work -/

/-- Puts a message into the inbox of a session. -/
def post (svc : Service) (id : Nat) (message : Message) : Service :=
  { svc with
    desks := svc.desks.map fun d =>
      if d.id = id then { d with inbox := d.inbox ++ [message] } else d }

/-- Ends a piece of work. -/
def finish (resolver : Resolver) (svc : Service) (u : Undertaking) : Service :=
  svc.post u.desk (u.work.finish resolver)

/-- **Ends all work that is not held back.** -/
def settle (sources : Sources) (svc : Service) : Service :=
  let (held, ready) := svc.underWay.partition (·.heldAs.isSome)
  let (lookups, others) := ready.partition (·.work.isLookup)
  (others ++ lookups).foldl (finish sources.resolver) { svc with underWay := held }

/-! ### Taking deliveries -/

/-- The service after a session at a desk has reacted to a delivery. -/
def react (svc : Service) (desk : Desk) (reaction : Reaction) : Service :=
  let svc := svc.put { desk with session := reaction.session }
  { svc with
    underWay := svc.underWay ++ reaction.work.map fun work => { desk := desk.id, work } }

/-- Takes the next batch of events for a session. -/
def stepBatch? (svc : Service) (desk : Desk) : Option (Service × Update) := do
  let listener ← desk.session.listener
  let (bus, received) := svc.bus.receive listener.subscription
  let batch ← received
  let reaction := desk.session.handleBatch batch
  return ({ svc with bus }.react desk reaction, reaction.update)

/-- **A session takes the next thing that has arrived for it.** -/
def step? (resolver : Resolver) (svc : Service) (id : Nat) : Option (Service × Update) := do
  let desk ← svc.desk? id
  match desk.inbox with
  | message :: rest =>
    let reaction := desk.session.handleMessage resolver message
    return (svc.react { desk with inbox := rest } reaction, reaction.update)
  | [] => svc.stepBatch? desk

/-- How many things have arrived for a session. -/
def backlog (svc : Service) (id : Nat) : Nat :=
  match svc.desk? id with
  | none => 0
  | some desk =>
    desk.inbox.length + ((svc.subscription? id).elim 0 fun s => (svc.bus.queue s).length)

/-- At most `count` steps of a session. -/
def steps (resolver : Resolver) (id : Nat) : Nat → Service → Service × List Update
  | 0, svc => (svc, [])
  | count + 1, svc =>
    match svc.step? resolver id with
    | none => (svc, [])
    | some (svc, update) =>
      let (svc, updates) := steps resolver id count svc
      (svc, update :: updates)

/-- A session takes everything that has arrived for it. -/
def pump (resolver : Resolver) (svc : Service) (id : Nat) : Service × List Update :=
  steps resolver id (svc.backlog id) svc

/-- A session that waits in vain notices if its bus is gone. -/
def noticeSilence (svc : Service) (id : Nat) : Service :=
  match svc.subscription? id with
  | some subscription =>
    if svc.bus.isExhausted subscription then svc.modify id ({ · with listener := none }) else svc
  | none => svc

/-- What comes of waiting for the next thing. -/
inductive Next where
  /-- Something has arrived and was dealt with. -/
  | update (update : Update)
  /-- Nothing has arrived yet. -/
  | pending
  /-- The session is closed. -/
  | closed
deriving Inhabited

/-- The phase of a session. -/
def phase? (svc : Service) (id : Nat) : Option Phase :=
  (svc.desk? id).map (·.session.phase)

/-- A session waits for the next thing. -/
def next (resolver : Resolver) (svc : Service) (id : Nat) : Service × Next :=
  if svc.phase? id = some .closed then (svc, .closed)
  else
    match svc.step? resolver id with
    | some (svc, update) => (svc, .update update)
    | none => (svc.noticeSilence id, .pending)

/-- At most `count` steps of a session, as long as its query runs. -/
def stepsWhileRunning (resolver : Resolver) (id : Nat) : Nat → Service → Service
  | 0, svc => svc
  | count + 1, svc =>
    if svc.phase? id = some .running then
      match svc.step? resolver id with
      | none => svc
      | some (svc, _) => stepsWhileRunning resolver id count svc
    else svc

/-- A session waits until its query is answered. The answer tells whether it is. -/
def wait (resolver : Resolver) (svc : Service) (id : Nat) : Service × Bool :=
  let svc := stepsWhileRunning resolver id (svc.backlog id) svc
  if svc.phase? id = some .running then (svc.noticeSilence id, false) else (svc, true)

/-- The hits of a range of a session with their items. -/
def materialize (resolver : Resolver) (svc : Service) (id start stop : Nat) :
    Except Failure (Service × List Hit) :=
  match svc.desk? id with
  | none => .error .sessionClosed
  | some desk =>
    match desk.session.materialize resolver start stop with
    | .ok (session, hits) => .ok (svc.put { desk with session }, hits)
    | .error e => .error e

end Service

end LiveSearch
