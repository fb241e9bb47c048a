import LiveSearch.Proofs.Reconcile.Contents

/-!
# A replay buffer with a queue

`ReplayBuffer` says which events are kept, and goes through all of them to find the oldest refresh.
A buffer that hears much is kept better with a **queue** (`ReplayQueue`): the events are numbered as
they arrive, the buffered ones are found by reference, in no particular order, and the number of
every refresh joins the queue. Nothing is ever taken out of the middle of the queue. An entry whose
event was superseded is **stale**, which its number tells, and it is passed over when it has come to
the front.

The two agree after every run (`ReplayQueue.keeps_run`), because **the entries that are not stale
are those of the buffered refreshes, in order of arrival** (`ReplayQueue.Keeps`). So what is said of
the contents of a buffer is true of either (`ReplayBuffer.contents_of_run`).
-/

namespace LiveSearch

/-- The events held back while a query runs, kept with a queue. -/
structure ReplayQueue where
  /-- How many references the buffer is meant to hold. -/
  capacity : Nat
  /-- The number of the last event. -/
  last : Nat := 0
  /-- The last event of each reference with its number, in no particular order. -/
  events : List (Nat × Event) := []
  /-- The numbers and references of refreshes, in order of arrival. Some of them are superseded. -/
  queue : List (Nat × Reference) := []
  /-- The references whose refresh has given way. -/
  evicted : List Reference := []
deriving Inhabited

namespace ReplayQueue

/-! ### Working with the queue -/

/-- The number of references with a buffered event. -/
def size (q : ReplayQueue) : Nat :=
  q.events.length

/-- Is there nothing to replay? -/
def isEmpty (q : ReplayQueue) : Bool :=
  q.events.isEmpty && q.evicted.isEmpty

/-- The number of the buffered event for a reference. -/
def number? (q : ReplayQueue) (ref : Reference) : Option Nat :=
  (q.events.find? (·.2.ref = ref)).map (·.1)

/-- Is the entry that of a buffered event? Otherwise it is stale. -/
def isLive (q : ReplayQueue) (entry : Nat × Reference) : Bool :=
  q.number? entry.2 = some entry.1

/-- The buffer without the event for a reference. -/
def erase (q : ReplayQueue) (ref : Reference) : ReplayQueue :=
  { q with events := q.events.filter (·.2.ref ≠ ref) }

/-- The buffer with a well-formed event, which takes the place of what was there for its
reference. -/
def record (q : ReplayQueue) (e : Event) : ReplayQueue :=
  let number := q.last + 1
  { q with
    last := number
    events := (number, e) :: (q.erase e.ref).events
    queue := if e.isRemoval then q.queue else q.queue ++ [(number, e.ref)]
    evicted := q.evicted.filter (· ≠ e.ref) }

/-- Takes entries from the front of a queue as long as the buffer is too large, and passes over
those that are stale. -/
def giveWay (q : ReplayQueue) : List (Nat × Reference) → ReplayQueue
  | [] => { q with queue := [] }
  | entry :: rest =>
    if q.size ≤ q.capacity then { q with queue := entry :: rest }
    else if q.isLive entry then
      giveWay { q.erase entry.2 with evicted := q.evicted ++ [entry.2] } rest
    else giveWay q rest

/-- The buffer after an event has arrived. -/
def push (q : ReplayQueue) (e : Event) : ReplayQueue :=
  if e.isMalformed then q else (q.record e).giveWay (q.record e).queue

/-- The buffer after the events of a batch have arrived. -/
def extend (q : ReplayQueue) (batch : List Event) : ReplayQueue :=
  batch.foldl push q

/-- The buffer without its contents. Numbers are not used again. -/
def clear (q : ReplayQueue) : ReplayQueue :=
  { q with events := [], queue := [], evicted := [] }

/-- What the buffer held, sorted by number, and the empty buffer. -/
def take (q : ReplayQueue) : Replay × ReplayQueue :=
  ({ events := (q.events.mergeSort fun a c => a.1 ≤ c.1).map (·.2), evicted := q.evicted }, q.clear)

/-- The buffer after an act. -/
def act (q : ReplayQueue) : ReplayBuffer.Act → ReplayQueue
  | .push e => q.push e
  | .extend batch => q.extend batch
  | .clear => q.clear
  | .take => q.take.2

/-- The buffer after some acts. -/
def run (q : ReplayQueue) (acts : List ReplayBuffer.Act) : ReplayQueue :=
  acts.foldl act q

end ReplayQueue

/-! ### One eviction at a time -/

namespace ReplayBuffer

/-- The buffer without its oldest refresh. -/
def evictOldest (b : ReplayBuffer) : ReplayBuffer :=
  { b with
    events := keepNewest 1 b.events
    evicted := b.evicted ++ oldestRefreshes 1 b.events }

theorem keepNewest_add (n m : Nat) (es : List Event) :
    keepNewest (n + m) es = keepNewest m (keepNewest n es) := by
  induction es generalizing n with
  | nil => cases n <;> cases m <;> rfl
  | cons e es ih =>
    cases n with
    | zero => rw [Nat.zero_add, keepNewest]
    | succ n =>
      rw [Nat.succ_add, keepNewest, keepNewest]
      split
      · exact ih n
      · next hkeep =>
        have hrest := ih (n + 1)
        rw [Nat.succ_add] at hrest
        rw [hrest]
        cases m with
        | zero => rw [keepNewest, keepNewest]
        | succ m => rw [keepNewest, if_neg hkeep]

theorem oldestRefreshes_add (n m : Nat) (es : List Event) :
    oldestRefreshes (n + m) es = oldestRefreshes n es ++ oldestRefreshes m (keepNewest n es) := by
  rw [oldestRefreshes_eq_take, oldestRefreshes_eq_take, oldestRefreshes_eq_take, filter_keepNewest,
    List.map_drop, List.take_add]

/-- **Cutting back** a buffer that is too large takes out its oldest refresh, and goes on. -/
theorem shrink_evictOldest {b : ReplayBuffer} (hover : b.capacity < b.size)
    (hsome : 0 < b.events.countP Event.isRefresh) : b.evictOldest.shrink = b.shrink := by
  have hlength := length_keepNewest 1 b.events
  have hexcess : b.size - b.capacity = 1 + (b.evictOldest.size - b.capacity) := by
    show b.events.length - b.capacity = 1 + ((keepNewest 1 b.events).length - b.capacity)
    rw [size] at hover
    omega
  have hevents : keepNewest (b.evictOldest.size - b.capacity) b.evictOldest.events =
      keepNewest (b.size - b.capacity) b.events := by
    rw [hexcess, keepNewest_add]
    rfl
  have hevicted : b.evictOldest.evicted ++
      oldestRefreshes (b.evictOldest.size - b.capacity) b.evictOldest.events =
        b.evicted ++ oldestRefreshes (b.size - b.capacity) b.events := by
    rw [hexcess, oldestRefreshes_add, ← List.append_assoc]
    rfl
  show ReplayBuffer.mk _ _ _ = ReplayBuffer.mk _ _ _
  exact congr (congrArg (ReplayBuffer.mk b.capacity) hevents) hevicted

/-- A buffer without refreshes cannot be cut back. -/
theorem shrink_of_removals {b : ReplayBuffer} (hnodup : b.refs.Nodup)
    (hnone : b.events.filter Event.isRefresh = []) : b.shrink = b := by
  have hgone : ∀ n, oldestRefreshes n b.events = [] := by
    intro n
    rw [oldestRefreshes, hnone, List.take_nil, List.map_nil]
  have hkept : ∀ n, keepNewest n b.events = b.events := by
    intro n
    rw [keepNewest_eq_filter hnodup, hgone]
    simp
  rw [shrink, hkept, hgone, List.append_nil]

end ReplayBuffer

namespace ReplayQueue

/-! ### The queue and the buffer -/

/-- The entries of the refreshes among some numbered events. -/
def entries (numbered : List (Nat × Event)) : List (Nat × Reference) :=
  (numbered.filter (·.2.isRefresh)).map fun n => (n.1, n.2.ref)

/-- **The queue keeps what the buffer keeps**, where the buffered events have got some numbers. -/
structure Keeps (q : ReplayQueue) (b : ReplayBuffer) (numbered : List (Nat × Event)) : Prop where
  /-- Both are meant to hold as much. -/
  capacity : q.capacity = b.capacity
  /-- The numbered events are those of the buffer, in order of arrival. -/
  events : numbered.map (·.2) = b.events
  /-- They are numbered in that order. -/
  ascending : numbered.Pairwise fun a c => a.1 < c.1
  /-- No reference has two of them. -/
  distinct : b.refs.Nodup
  /-- They are what is stored. -/
  stored : q.events.Perm numbered
  /-- Numbers have been given out in turn. -/
  issued : (∀ n ∈ numbered, n.1 ≤ q.last) ∧ ∀ entry ∈ q.queue, entry.1 ≤ q.last
  /-- **What is not stale** are the entries of the refreshes. -/
  live : q.queue.filter q.isLive = entries numbered
  /-- Both have evicted the same. -/
  evicted : q.evicted = b.evicted

theorem entries_append (xs ys : List (Nat × Event)) :
    entries (xs ++ ys) = entries xs ++ entries ys := by
  rw [entries, List.filter_append, List.map_append]
  rfl

/-- The events that are not for a reference have the entries that are not for it. -/
theorem entries_filter (numbered : List (Nat × Event)) (ref : Reference) :
    entries (numbered.filter (·.2.ref ≠ ref)) = (entries numbered).filter (·.2 ≠ ref) := by
  rw [entries, entries, List.filter_map, List.filter_comm]
  rfl

theorem number?_erase (q : ReplayQueue) (ref ref' : Reference) :
    (q.erase ref).number? ref' = if ref' = ref then none else q.number? ref' := by
  rw [number?, number?, erase]
  by_cases h : ref' = ref
  · have hnone : (q.events.filter (·.2.ref ≠ ref)).find? (·.2.ref = ref') = none := by
      rw [List.find?_eq_none]
      intro n hmem
      have hne := (List.mem_filter.mp hmem).2
      simpa [h] using hne
    rw [if_pos h, hnone, Option.map_none]
  · rw [if_neg h, List.find?_filter]
    congr 2
    funext n
    by_cases hn : n.2.ref = ref'
    · simp [hn, h]
    · simp [hn]

theorem number?_record (q : ReplayQueue) (e : Event) (ref : Reference) :
    (q.record e).number? ref = if ref = e.ref then some (q.last + 1) else q.number? ref := by
  by_cases h : ref = e.ref
  · rw [if_pos h, number?, record, List.find?_cons_of_pos (by simp [h]), Option.map_some]
  · have hrest := number?_erase q e.ref ref
    rw [if_neg h] at hrest
    rw [if_neg h, number?, record, List.find?_cons_of_neg (by simpa using Ne.symm h)]
    exact hrest

/-- Erasing a reference makes its entries stale. -/
theorem isLive_erase (q : ReplayQueue) (ref : Reference) (entry : Nat × Reference) :
    (q.erase ref).isLive entry = (q.isLive entry && decide (entry.2 ≠ ref)) := by
  rw [isLive, isLive, number?_erase]
  by_cases h : entry.2 = ref <;> simp [h]

/-- A new event makes the older entries of its reference stale. -/
theorem isLive_record {q : ReplayQueue} (e : Event) {entry : Nat × Reference}
    (hissued : entry.1 ≤ q.last) :
    (q.record e).isLive entry = (q.isLive entry && decide (entry.2 ≠ e.ref)) := by
  rw [isLive, isLive, number?_record]
  by_cases h : entry.2 = e.ref
  · have hne : q.last + 1 ≠ entry.1 := by omega
    simp [h, hne]
  · simp [h]

namespace Keeps

variable {q : ReplayQueue} {b : ReplayBuffer} {numbered : List (Nat × Event)}

theorem size (h : q.Keeps b numbered) : q.size = b.size := by
  rw [ReplayQueue.size, h.stored.length_eq, ReplayBuffer.size, ← h.events, List.length_map]

theorem empty {q : ReplayQueue} {b : ReplayBuffer} (hcapacity : q.capacity = b.capacity) :
    q.clear.Keeps b.clear [] where
  capacity := hcapacity
  events := rfl
  ascending := List.Pairwise.nil
  distinct := List.nodup_nil
  stored := List.Perm.refl []
  issued := ⟨by simp, by simp [clear]⟩
  live := rfl
  evicted := rfl

/-- **A well-formed event is recorded.** -/
theorem record (h : q.Keeps b numbered) {e : Event} (hwell : e.isMalformed = false) :
    (q.record e).Keeps
      { b with events := b.events.filter (·.ref ≠ e.ref) ++ [e]
               evicted := b.evicted.filter (· ≠ e.ref) }
      (numbered.filter (·.2.ref ≠ e.ref) ++ [(q.last + 1, e)]) where
  capacity := h.capacity
  events := by
    rw [List.map_append, ← h.events, List.filter_map]
    rfl
  ascending := by
    refine List.pairwise_append.mpr ⟨h.ascending.filter _, List.pairwise_singleton _ _, ?_⟩
    intro n hn m hm
    obtain rfl := List.mem_singleton.mp hm
    exact Nat.lt_succ_of_le (h.issued.1 n (List.mem_filter.mp hn).1)
  distinct := ReplayBuffer.nodup_refs_replace h.distinct e
  stored := by
    have hrest := (h.stored.filter fun n => n.2.ref ≠ e.ref).cons (q.last + 1, e)
    exact hrest.trans (List.perm_append_singleton _ _).symm
  issued := by
    refine ⟨fun n hn => ?_, fun entry hentry => ?_⟩
    · rcases List.mem_append.mp hn with hold | hnew
      · exact Nat.le_succ_of_le (h.issued.1 n (List.mem_filter.mp hold).1)
      · rw [List.mem_singleton.mp hnew]
        exact Nat.le_refl _
    · have hold : ∀ entry ∈ q.queue, entry.1 ≤ q.last + 1 :=
        fun entry hmem => Nat.le_succ_of_le (h.issued.2 entry hmem)
      by_cases hremoval : e.isRemoval
      · rw [ReplayQueue.record, if_pos hremoval] at hentry
        exact hold entry hentry
      · rw [ReplayQueue.record, if_neg hremoval] at hentry
        rcases List.mem_append.mp hentry with hmem | hnew
        · exact hold entry hmem
        · rw [List.mem_singleton.mp hnew]
          exact Nat.le_refl _
  live := by
    have hold : q.queue.filter (q.record e).isLive =
        entries (numbered.filter (·.2.ref ≠ e.ref)) := by
      rw [entries_filter, ← h.live, List.filter_filter]
      refine List.filter_congr fun entry hentry => ?_
      rw [isLive_record e (h.issued.2 entry hentry), Bool.and_comm]
    have hnew : (q.record e).isLive (q.last + 1, e.ref) = true := by
      rw [isLive, number?_record, if_pos rfl, decide_eq_true_iff]
    have hkind := Event.isRefresh_eq_not_isRemoval hwell
    rw [entries_append, ← hold]
    by_cases hremoval : e.isRemoval
    · have hnone : entries [(q.last + 1, e)] = [] := by simp [entries, hkind, hremoval]
      have hqueue : (q.record e).queue = q.queue := if_pos hremoval
      rw [hqueue, hnone, List.append_nil]
    · have hone : entries [(q.last + 1, e)] = [(q.last + 1, e.ref)] := by
        simp [entries, hkind, hremoval]
      have hqueue : (q.record e).queue = q.queue ++ [(q.last + 1, e.ref)] := if_neg hremoval
      rw [hqueue, hone, List.filter_append, List.filter_cons_of_pos hnew, List.filter_nil]
  evicted := congrArg (List.filter (· ≠ e.ref)) h.evicted

/-- An entry that has become stale is passed over. -/
theorem skip {entry : Nat × Reference} {rest : List (Nat × Reference)}
    (h : Keeps { q with queue := entry :: rest } b numbered) (hstale : q.isLive entry = false) :
    Keeps { q with queue := rest } b numbered := by
  have hlive : (entry :: rest).filter q.isLive = entries numbered := h.live
  rw [List.filter_cons_of_neg (by simp [hstale])] at hlive
  exact { h with
    issued := ⟨h.issued.1, fun e he => h.issued.2 e (List.mem_cons_of_mem _ he)⟩
    live := hlive }

/-- The refreshes of the buffer are queued in the order in which it has them. -/
theorem refreshes_eq (h : q.Keeps b numbered) :
    (b.events.filter Event.isRefresh).map (·.ref) = (entries numbered).map (·.2) := by
  rw [← h.events, entries, List.filter_map, List.map_map, List.map_map]
  rfl

/-- **An entry that is not stale** is that of the oldest refresh. -/
theorem evict {entry : Nat × Reference} {rest : List (Nat × Reference)}
    (h : Keeps { q with queue := entry :: rest } b numbered) (hlive : q.isLive entry = true) :
    0 < b.events.countP Event.isRefresh ∧
      Keeps { q.erase entry.2 with queue := rest, evicted := q.evicted ++ [entry.2] } b.evictOldest
        (numbered.filter (·.2.ref ≠ entry.2)) := by
  have hqueued : entries numbered = entry :: rest.filter q.isLive := by
    rw [← h.live]
    exact List.filter_cons_of_pos hlive
  have hrefreshes := h.refreshes_eq
  rw [hqueued, List.map_cons] at hrefreshes
  have holdest : ReplayBuffer.oldestRefreshes 1 b.events = [entry.2] := by
    rw [ReplayBuffer.oldestRefreshes_eq_take, hrefreshes]
    rfl
  have hkept : ReplayBuffer.keepNewest 1 b.events = b.events.filter (·.ref ≠ entry.2) := by
    rw [ReplayBuffer.keepNewest_eq_filter h.distinct, holdest]
    simp
  refine ⟨?_, ?_⟩
  · rw [List.countP_eq_length_filter, ← List.length_map, hrefreshes]
    exact Nat.succ_pos _
  · exact
      { capacity := h.capacity
        events := by
          show _ = ReplayBuffer.keepNewest 1 b.events
          rw [hkept, ← h.events, List.filter_map]
          rfl
        ascending := h.ascending.filter _
        distinct := h.distinct.sublist ((ReplayBuffer.keepNewest_sublist 1 b.events).map _)
        stored := h.stored.filter _
        issued := ⟨fun n hn => h.issued.1 n (List.mem_filter.mp hn).1,
          fun e he => h.issued.2 e (List.mem_cons_of_mem _ he)⟩
        live := by
          show rest.filter (q.erase entry.2).isLive = _
          rw [entries_filter, hqueued, List.filter_cons_of_neg (by simp), List.filter_filter]
          refine List.filter_congr fun e _ => ?_
          rw [isLive_erase, Bool.and_comm]
        evicted := by
          show q.evicted ++ [entry.2] = b.evicted ++ ReplayBuffer.oldestRefreshes 1 b.events
          rw [holdest, ← show q.evicted = b.evicted from h.evicted] }

/-- **Giving way** from the front of the queue is cutting the buffer back. -/
theorem giveWay {queue : List (Nat × Reference)} (h : Keeps { q with queue } b numbered) :
    ∃ numbered', (q.giveWay queue).Keeps b.shrink numbered' := by
  induction queue generalizing q b numbered with
  | nil =>
    -- nothing is queued, so the buffer has removals only
    have hnone : b.events.filter Event.isRefresh = [] := by
      rw [← List.map_eq_nil_iff (f := (·.ref)), h.refreshes_eq, ← h.live]
      rfl
    rw [ReplayQueue.giveWay, ReplayBuffer.shrink_of_removals h.distinct hnone]
    exact ⟨numbered, h⟩
  | cons entry rest ih =>
    have hsize : q.size = b.size := h.size
    have hcapacity : q.capacity = b.capacity := h.capacity
    rw [ReplayQueue.giveWay]
    split
    · next hroom =>
      rw [hsize, hcapacity] at hroom
      rw [ReplayBuffer.shrink_of_le hroom]
      exact ⟨numbered, h⟩
    · next hover =>
      rw [hsize, hcapacity, Nat.not_le] at hover
      split
      · next hlive =>
        obtain ⟨hsome, hnext⟩ := h.evict hlive
        rw [← ReplayBuffer.shrink_evictOldest hover hsome]
        exact ih hnext
      · next hstale => exact ih (h.skip (by simpa using hstale))

theorem push (h : q.Keeps b numbered) (e : Event) :
    ∃ numbered', (q.push e).Keeps (b.push e) numbered' := by
  rw [ReplayQueue.push, ReplayBuffer.push]
  by_cases hmal : e.isMalformed
  · rw [if_pos hmal, if_pos (show e.action?.isNone from hmal)]
    exact ⟨numbered, h⟩
  · rw [if_neg hmal, if_neg (show ¬e.action?.isNone from hmal)]
    exact (h.record (by simpa using hmal)).giveWay

theorem extend (h : q.Keeps b numbered) (batch : List Event) :
    ∃ numbered', (q.extend batch).Keeps (b.extend batch) numbered' := by
  induction batch generalizing q b numbered with
  | nil => exact ⟨numbered, h⟩
  | cons e batch ih =>
    obtain ⟨numbered', hnext⟩ := h.push e
    exact ih hnext

/-- **What is taken out** is the same, and stands in the same order. -/
theorem take (h : q.Keeps b numbered) : q.take.1 = b.take.1 := by
  have hperm : (q.events.mergeSort fun a c => a.1 ≤ c.1).Perm numbered :=
    (List.mergeSort_perm _ _).trans h.stored
  have hascending : (q.events.mergeSort fun a c => a.1 ≤ c.1).Pairwise fun a c => a.1 ≤ c.1 := by
    have hsorted := @List.pairwise_mergeSort _ (fun a c : Nat × Event => decide (a.1 ≤ c.1))
      (by simp; omega) (by simp; omega) q.events
    simpa using hsorted
  have hnumbers : (numbered.map (·.1)).Nodup :=
    List.pairwise_map.mpr (h.ascending.imp Nat.ne_of_lt)
  -- no number is given twice, so there is one way only to sort by them
  have hsorted : q.events.mergeSort (fun a c => a.1 ≤ c.1) = numbered := by
    refine hperm.eq_of_pairwise ?_ hascending (h.ascending.imp Nat.le_of_lt)
    intro a c ha hc hac hca
    exact List.inj_on_of_nodup_map hnumbers (hperm.subset ha) hc (Nat.le_antisymm hac hca)
  show Replay.mk _ _ = Replay.mk _ _
  rw [hsorted, h.events, h.evicted]

theorem act (h : q.Keeps b numbered) (a : ReplayBuffer.Act) :
    ∃ numbered', (q.act a).Keeps (b.act a) numbered' := by
  cases a with
  | push e => exact h.push e
  | extend batch => exact h.extend batch
  | clear => exact ⟨[], empty h.capacity⟩
  | take => exact ⟨[], empty h.capacity⟩

end Keeps

theorem run_concat (q : ReplayQueue) (acts : List ReplayBuffer.Act) (a : ReplayBuffer.Act) :
    q.run (acts ++ [a]) = (q.run acts).act a :=
  List.foldl_concat ..

/-- **After every run** the queue keeps what the buffer keeps. -/
theorem keeps_run (capacity : Nat) (acts : List ReplayBuffer.Act) :
    ∃ numbered, (run { capacity } acts).Keeps (ReplayBuffer.run { capacity } acts) numbered := by
  induction acts using List.reverseRecOn with
  | nil => exact ⟨[], Keeps.empty (q := { capacity }) (b := { capacity }) rfl⟩
  | append_singleton acts a ih =>
    obtain ⟨numbered, h⟩ := ih
    rw [run_concat, ReplayBuffer.run_concat]
    exact h.act a

end ReplayQueue

/-- **What a replay buffer contains**, after any run of pushes, batches, clearings and takings, for
any capacity. Malformed events have no effect. A reference that a well-formed event was about since
the buffer was last emptied is either buffered, with its latest event, or evicted; removals are
always buffered, and what was evicted is older than every buffered refresh; as many references are
buffered as the capacity allows, or more if there are more removals. What is taken out are the
buffered events in order of arrival and the evicted references, and nothing stays behind. A buffer
that is kept with a queue, in which stale entries are left until they come to the front, contains
and gives out the same. -/
theorem ReplayBuffer.contents_of_run (capacity : Nat) (acts : List Act) :
    let b := run { capacity } acts
    let q := ReplayQueue.run { capacity } acts
    b.capacity = capacity ∧ b.Contents (heardOf acts) ∧
      (∀ e, e.isMalformed = true → b.push e = b ∧ q.push e = q) ∧
      b.take = ({ events := b.events, evicted := b.evicted }, { capacity }) ∧
      q.take.1 = b.take.1 ∧ q.take.2.isEmpty = true ∧ q.size = b.size ∧ q.isEmpty = b.isEmpty := by
  intro b q
  obtain ⟨hkeeps, hcut, hcapacity⟩ := keepsNewest_run capacity acts
  obtain ⟨numbered, h⟩ := ReplayQueue.keeps_run capacity acts
  refine ⟨hcapacity, hkeeps.contents hcut, fun e hmal => ⟨if_pos hmal, if_pos hmal⟩, ?_, h.take,
    rfl, h.size, ?_⟩
  · show (_, b.clear) = (_, ({ capacity } : ReplayBuffer))
    rw [clear, hcapacity]
  · have hevents : q.events.isEmpty = b.events.isEmpty := by
      rw [Bool.eq_iff_iff, List.isEmpty_iff_length_eq_zero, List.isEmpty_iff_length_eq_zero]
      exact iff_of_eq (congrArg (· = 0) h.size)
    show (q.events.isEmpty && q.evicted.isEmpty) = (b.events.isEmpty && b.evicted.isEmpty)
    rw [hevents, h.evicted]

/-- An evicted reference comes back while a removal fills the buffer: it is evicted again. -/
example :
    let item : UInt64 → Item := fun n =>
      { ref := ⟨n⟩, feed := "f", guid := "a", title := "A", state := .unread, received := 5 }
    (ReplayBuffer.run { capacity := 1 } [.push (Event.updated (item 1)),
      .extend [Event.updated (item 2), Event.deleted ⟨2⟩], .push (Event.updated (item 1))]).take.1 =
        { events := [Event.deleted ⟨2⟩], evicted := [⟨1⟩] } := rfl

end LiveSearch
