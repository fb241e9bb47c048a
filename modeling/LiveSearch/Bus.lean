import LiveSearch.Mutation

/-!
# The event bus

Whoever wants to hear of changes **subscribes** to one kind of thing; every batch published about
that kind is put into the queue of each subscription. Subscriptions outlive the bus: what is queued
can still be received when the bus is gone.

* `Bus.subscribe`, `Bus.unsubscribe` – subscriptions come and go; no number is given twice.
* `Bus.publish` – a batch is delivered, and the number of receivers is counted. An empty batch is
  not delivered.
* `Bus.receive`, `Bus.receiveAll` – the oldest queued batch of a subscription, and all of them.
-/

namespace LiveSearch

/-- A subscription, with the batches that it has not yet received. -/
structure Subscription where
  /-- The number of the subscription. -/
  id : Nat
  /-- The kind of thing that it is about. -/
  entity : EntityKind
  /-- The batches not yet received, the oldest first. -/
  queue : List (List Event) := []
deriving DecidableEq, Inhabited

/-- The event bus with its subscriptions. -/
structure Bus where
  /-- The number of the next subscription. -/
  nextId : Nat := 0
  /-- The subscriptions, in the order in which they were made. -/
  subscriptions : List Subscription := []
  /-- Is the bus still there? -/
  isOpen : Bool := true
deriving DecidableEq, Inhabited

namespace Bus

/-- A new subscription, and its number. -/
def subscribe (b : Bus) (entity : EntityKind) : Bus × Nat :=
  ({ b with
      nextId := b.nextId + 1
      subscriptions := b.subscriptions ++ [{ id := b.nextId, entity }] }, b.nextId)

/-- The bus without a subscription. -/
def unsubscribe (b : Bus) (id : Nat) : Bus :=
  { b with subscriptions := b.subscriptions.filter (·.id ≠ id) }

/-- A subscription with one more batch in its queue, if the batch is for it. -/
def deliver (entity : EntityKind) (batch : List Event) (s : Subscription) : Subscription :=
  if s.entity = entity then { s with queue := s.queue ++ [batch] } else s

/-- Delivers a batch, and counts the subscriptions that it reaches. One that has gone away is not
listed any more, so every one that is listed can be reached. -/
def publish (b : Bus) (entity : EntityKind) (batch : List Event) : Bus × Nat :=
  if batch.isEmpty then (b, 0)
  else
    ({ b with subscriptions := b.subscriptions.map (deliver entity batch) },
      b.subscriptions.countP (·.entity = entity))

/-- The number of subscriptions. -/
def count (b : Bus) : Nat :=
  b.subscriptions.length

/-- The bus goes away; what is queued stays. -/
def close (b : Bus) : Bus :=
  { b with isOpen := false }

/-- The subscription with a number. -/
def find? (b : Bus) (id : Nat) : Option Subscription :=
  b.subscriptions.find? (·.id = id)

/-- The batches queued for a subscription. -/
def queue (b : Bus) (id : Nat) : List (List Event) :=
  match b.find? id with
  | some s => s.queue
  | none => []

/-- A subscription with the oldest batch taken from its queue, if it is the one with the number. -/
def takeOldest (id : Nat) (s : Subscription) : Subscription :=
  if s.id = id then { s with queue := s.queue.drop 1 } else s

/-- Takes the oldest batch from the queue of a subscription. -/
def receive (b : Bus) (id : Nat) : Bus × Option (List Event) :=
  ({ b with subscriptions := b.subscriptions.map (takeOldest id) }, (b.queue id).head?)

/-- A subscription with an empty queue, if it is the one with the number. -/
def emptied (id : Nat) (s : Subscription) : Subscription :=
  if s.id = id then { s with queue := [] } else s

/-- Takes all batches from the queue of a subscription. -/
def receiveAll (b : Bus) (id : Nat) : Bus × List (List Event) :=
  ({ b with subscriptions := b.subscriptions.map (emptied id) }, b.queue id)

/-- Has the subscription nothing more to expect? -/
def isExhausted (b : Bus) (id : Nat) : Bool :=
  !b.isOpen && (b.queue id).isEmpty

end Bus

/-- A session's subscription to the changes of items. -/
structure Listener where
  /-- The number of the subscription. -/
  subscription : Nat
  /-- How many events a batch needs to be planned in the background; zero stands for never. -/
  threshold : Nat
deriving DecidableEq, Inhabited

/-- Is a batch of this size planned in the background? -/
def Listener.plansInBackground (l : Listener) (size : Nat) : Bool :=
  0 < l.threshold && l.threshold ≤ size

end LiveSearch
