import LiveSearch.Mutation

/-!
# The replay buffer

While a query runs, events are held back until its hits are there. The **replay buffer** keeps, of
each reference, the last well-formed event, in the order in which these events arrived. Its capacity
bounds the references: when there are too many, the oldest *refresh* gives way and its reference is
remembered as **evicted**, to be looked up again later. Removals never give way, so the buffer may
outgrow its capacity.

* `ReplayBuffer.push`, `ReplayBuffer.extend` – events arrive.
* `ReplayBuffer.take` – the events in order of arrival with the evicted references, and the empty
  buffer.
-/

namespace LiveSearch

/-- The events held back while a query runs. -/
structure ReplayBuffer where
  /-- How many references the buffer is meant to hold. -/
  capacity : Nat
  /-- The last event of each reference, in order of arrival. -/
  events : List Event := []
  /-- The references whose refresh has given way. -/
  evicted : List Reference := []
deriving DecidableEq, Inhabited

/-- Everything that a buffer held. -/
structure Replay where
  /-- The events, in order of arrival. -/
  events : List Event := []
  /-- The references whose refresh has given way. -/
  evicted : List Reference := []
deriving DecidableEq, Inhabited

/-- Does a well-formed event ask to show a new version? -/
def Event.isRefresh (e : Event) : Bool :=
  match e.action? with
  | some (.refresh _) => true
  | _ => false

namespace ReplayBuffer

/-- The number of references with a buffered event. -/
def size (b : ReplayBuffer) : Nat :=
  b.events.length

/-- Is there nothing to replay? -/
def isEmpty (b : ReplayBuffer) : Bool :=
  b.events.isEmpty && b.evicted.isEmpty

/-- The buffer without its contents. -/
def clear (b : ReplayBuffer) : ReplayBuffer :=
  { capacity := b.capacity }

/-- The events that stay when the oldest `excess` refreshes give way, as far as there are any. -/
def keepNewest : Nat → List Event → List Event
  | 0, es => es
  | _, [] => []
  | excess + 1, e :: es =>
    if e.isRefresh then keepNewest excess es else e :: keepNewest (excess + 1) es

/-- The references of the oldest `excess` refreshes. -/
def oldestRefreshes (excess : Nat) (es : List Event) : List Reference :=
  ((es.filter Event.isRefresh).take excess).map (·.ref)

/-- The buffer cut back to its capacity as far as refreshes can give way. -/
def shrink (b : ReplayBuffer) : ReplayBuffer :=
  let excess := b.size - b.capacity
  { b with
    events := keepNewest excess b.events
    evicted := b.evicted ++ oldestRefreshes excess b.events }

/-- The buffer after an event has arrived. Malformed events leave no trace. -/
def push (b : ReplayBuffer) (e : Event) : ReplayBuffer :=
  if e.action?.isNone then b
  else
    shrink
      { b with
        events := b.events.filter (·.ref ≠ e.ref) ++ [e]
        evicted := b.evicted.filter (· ≠ e.ref) }

/-- The buffer after the events of a batch have arrived. -/
def extend (b : ReplayBuffer) (batch : List Event) : ReplayBuffer :=
  batch.foldl push b

/-- What the buffer held, and the empty buffer. -/
def take (b : ReplayBuffer) : Replay × ReplayBuffer :=
  ({ events := b.events, evicted := b.evicted }, b.clear)

end ReplayBuffer

end LiveSearch
