import LiveSearch.Bus
import LiveSearch.Condition.Validation
import LiveSearch.Reconcile.Recheck
import LiveSearch.Reconcile.Replay
import LiveSearch.Settings

/-!
# Sessions

A **session** shows the hits of one query at a time and keeps them up to date. Its queries, its
lookups and its larger plans are **work** that goes on elsewhere; what comes of it arrives as a
**message**, at some later time and in any order. Batches of events arrive as well.

Every query is given a number of the session, larger than all before. Clearing and closing take a
number, too. Only the query with the latest number can still be answered, so a slow query never
overwrites the hits of a newer one.

* `Session.issue` – **a query begins**. The old hits stay until it is answered.
* `Session.clear`, `Session.close` – the hits go, and so does everything that waits for an answer.
* `Session.snapshot` – the hits that are shown.

What messages and batches do to a session stands in `LiveSearch.Session.Delivery`.
-/

namespace LiveSearch

/-- What a session is doing. -/
inductive Phase where
  /-- There is no query. -/
  | idle
  /-- A query has been issued and not been answered. -/
  | running
  /-- The query has been answered. -/
  | completed
  /-- The query has failed. -/
  | failed
  /-- The session accepts no more queries. -/
  | closed
deriving DecidableEq, Inhabited

namespace Phase

/-- The name of a phase. -/
def name : Phase → String
  | .idle => "idle"
  | .running => "running"
  | .completed => "completed"
  | .failed => "failed"
  | .closed => "closed"

/-- The spelling of a phase in descriptions of a session. -/
def description : Phase → String
  | .idle => "Idle"
  | .running => "Running"
  | .completed => "Completed"
  | .failed => "Failed"
  | .closed => "Closed"

end Phase

/-- What the **work** of a session answers. -/
inductive Message where
  /-- The answer to the query with a number. -/
  | answered (sequence : Nat) (answer : Except Failure (List RankedHit))
  /-- What looking up the items of some hits of a generation has found, and what does not exist. -/
  | resolved (generation : Nat) (items : List Item) (missing : List Reference)
  /-- The plan of a batch for a generation of hits, or the batch itself if no plan was made. -/
  | planned (generation : Nat) (plan : Except (List Event) Plan)
deriving Inhabited

/-- **Work** that a session has begun. -/
inductive Work where
  /-- The hits of a query are to be delivered; if asked for, only those whose items exist. -/
  | query (sequence : Nat) (answer : Except Failure (List RankedHit)) (verify : Bool)
  /-- The items of some hits of a generation are to be looked up. -/
  | resolve (generation : Nat) (refs : List Reference)
  /-- A batch is to be planned for the hits of a generation, which were those for `members`. -/
  | plan (generation : Nat) (batch : List Event) (members : List Reference)
deriving Inhabited

namespace Work

/-- The message that a piece of work ends with. -/
def finish (resolver : Resolver) : Work → Message
  | .query sequence answer verify =>
    .answered sequence
      (answer.map fun hits => if verify then retainExisting hits resolver else hits)
  | .resolve generation refs =>
    .resolved generation (resolver.found refs) (resolver.missing refs)
  | .plan generation batch members =>
    .planned generation (.ok (Plan.ofEvents batch fun ref => ref ∈ members))

/-- The message of a piece of work that **breaks off**: a query has failed then, and a batch comes
back without a plan. Of a lookup nothing is heard. -/
def breakOff? (reason : String) : Work → Option Message
  | .query sequence _ _ => some (.answered sequence (.error (.runtime reason)))
  | .resolve _ _ => none
  | .plan generation batch _ => some (.planned generation (.error batch))

/-- Is the work a lookup of items? -/
def isLookup : Work → Bool
  | .resolve _ _ => true
  | _ => false

end Work

/-- A live search session. -/
structure Session where
  /-- The settings that the session was opened with. -/
  settings : Settings
  /-- The subscription to the changes of items, until the session is closed or the bus is gone. -/
  listener : Option Listener
  /-- The hits. -/
  results : ResultSet := {}
  /-- The number of the last query, clearing or closing. -/
  sequence : Nat := 0
  /-- What the session is doing. -/
  phase : Phase := .idle
  /-- The sentence that describes why the query has failed. -/
  error : Option String := none
  /-- The events that have arrived while the query runs. -/
  replay : ReplayBuffer
  /-- The generation of the hits for which a batch is being planned. -/
  planning : Option Nat := none
  /-- The batches that wait for the plan. -/
  deferred : List (List Event) := []
deriving DecidableEq, Inhabited

namespace Session

/-- A new session with a subscription. -/
def fresh (settings : Settings) (subscription : Nat) : Session :=
  { settings
    listener := some { subscription, threshold := settings.backgroundScanThreshold }
    replay := { capacity := settings.replayCapacity } }

/-- Is the session closed? -/
def isClosed (s : Session) : Bool :=
  s.phase = .closed

/-! ### Queries -/

/-- Begins a query, whose number is the new `sequence`. -/
def begin (s : Session) : Session :=
  { s with
    sequence := s.sequence + 1
    phase := .running
    error := none
    replay := s.replay.clear }

/-- **Begins a query** with valid conditions, unless the session is closed. -/
def issue (s : Session) (conditions : List Condition) : Except Failure Session :=
  if s.isClosed then .error .sessionClosed
  else
    match validateConditions conditions with
    | .ok () => .ok s.begin
    | .error e => .error e

/-- The session without its hits and without everything that waits to be applied to them. -/
def resetResults (s : Session) : Session :=
  { s with
    results := s.results.clear
    replay := s.replay.clear
    deferred := []
    planning := none }

/-- Drops the hits and gives up the query. -/
def clear (s : Session) : Session :=
  if s.isClosed then s
  else { s.resetResults with sequence := s.sequence + 1, phase := .idle, error := none }

/-- Closes the session. -/
def close (s : Session) : Session :=
  if s.isClosed then s
  else
    { s.resetResults with
      sequence := s.sequence + 1
      listener := none
      phase := .closed
      error := none }

/-! ### Showing the hits -/

/-- The hits that are shown. -/
def snapshot (s : Session) : List Hit :=
  s.results.visible

/-- Chooses the order that the next sort establishes. -/
def setOrder (s : Session) (order : SortOrder) : Session :=
  { s with results := s.results.setOrder order }

/-- Sorts the hits. -/
def resort (s : Session) : Session :=
  { s with results := s.results.resort }

/-- A short description of the session. -/
def description (s : Session) : String :=
  "SearchSession \x7b state: " ++ s.phase.description ++
    ", sequence: " ++ Text.Decimal.render s.sequence ++
    ", hits: " ++ Text.Decimal.render s.results.size ++ ", .. \x7d"

end Session

end LiveSearch
