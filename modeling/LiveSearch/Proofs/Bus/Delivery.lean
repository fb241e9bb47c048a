import LiveSearch.Proofs.Bus.Flow

/-!
# What a bus delivers

**Nothing is lost, nothing comes twice, and nothing overtakes** (`Bus.delivers`). Whatever has been
done with a bus, what a subscription has received and what is still queued for it are together what
was published about its kind of thing since it was made. Who is reached by a batch, and how many
subscriptions there are, can be told from the history; what one subscription receives does not
depend on whether another one is still there; and the end of the bus leaves to be received what is
queued.

The history of a bus and the bus **tally** (`Bus.Tallies`), which one more act preserves
(`Bus.Tallies.react`). All that is promised is read off from that.
-/

namespace LiveSearch

namespace Bus

open History

variable {b : Bus} {h : History}

/-- **A bus and its history tally.** -/
structure Tallies (b : Bus) (h : History) : Prop where
  /-- The numbers that were given are the first ones. -/
  given : given h = List.range b.nextId
  /-- The subscriptions are those that were made and have not gone away. -/
  roll : b.roll = live h
  /-- The bus is there until it goes away. -/
  isOpen : b.isOpen = !isOver h
  /-- Without a number nothing has been received. -/
  silent : ∀ id, id ∉ History.given h → received h id = []
  /-- What was received and what is queued is what was published. -/
  queues : ∀ s ∈ b.subscriptions, received h s.id ++ s.queue = published (since h s.id) s.entity

namespace Tallies

theorem empty : Tallies {} [] := by
  refine ⟨rfl, rfl, rfl, fun _ _ => rfl, fun s hs => ?_⟩
  cases hs

theorem nodup_given (ht : b.Tallies h) : (History.given h).Nodup := by
  rw [ht.given]
  exact List.nodup_range

theorem distinct (ht : b.Tallies h) : b.Distinct := by
  have hroll : b.subscriptions.map (·.id) = (live h).map (·.1) := by
    rw [← ht.roll, Bus.roll, List.map_map]
    rfl
  rw [Distinct, hroll]
  exact ht.nodup_given.sublist (sublist_given h)

/-- A subscription that is there has been given its number. -/
theorem mem_given (ht : b.Tallies h) {s : Subscription} (hs : s ∈ b.subscriptions) :
    s.id ∈ History.given h := by
  refine (sublist_given h).subset ?_
  rw [← ht.roll, Bus.roll, List.map_map]
  exact List.mem_map_of_mem (f := fun s : Subscription => s.id) hs

/-- Who is in the history is there. -/
theorem exists_mem (ht : b.Tallies h) {id : Nat} {entity : EntityKind} (hin : (id, entity) ∈ live h) :
    ∃ s ∈ b.subscriptions, s.id = id ∧ s.entity = entity := by
  rw [← ht.roll] at hin
  obtain ⟨s, hs, heq⟩ := List.mem_map.mp hin
  exact ⟨s, hs, Prod.mk.inj heq⟩

/-- **One act keeps the tally.** -/
theorem react (ht : b.Tallies h) (a : Act) :
    (b.react a).1.Tallies (h ++ [(a, (b.react a).2)]) := by
  refine ⟨?_, ?_, ?_, fun id hid => ?_, fun s' hs' => ?_⟩
  · rw [given_concat, ht.given, range_react]
  · rw [roll_react, ht.roll, live_concat]
  · rw [isOpen_react, isOver_concat, ht.isOpen, Bool.not_or]
  · rw [given_concat, List.mem_append, not_or] at hid
    have hnone : received? id (a, (b.react a).2) = none := by
      rw [Option.eq_none_iff_forall_ne_some]
      intro batch hbatch
      obtain ⟨s, hs, rfl⟩ := mem_of_received? hbatch
      exact hid.1 (ht.mem_given hs)
    rw [received_concat, hnone, ht.silent id hid.1]
    rfl
  · rcases flows_react ht.distinct a hs' with ⟨s, hs, hflows⟩ | ⟨entity, hact, hnew, hid, hqueue⟩
    · rw [← hflows.id, ← hflows.entity, received_concat, List.append_assoc, hflows.queue,
        ← List.append_assoc, ht.queues s hs, since_concat (ht.mem_given hs), published_concat]
    · -- the new number has not been given before
      have hfresh : s'.id ∉ History.given h := by
        rw [ht.given, hid, List.mem_range]
        exact Nat.lt_irrefl _
      have hgiven : given? (a, (b.react a).2) = some s'.id := by
        rw [hnew]
        rfl
      rw [received_concat, ht.silent _ hfresh, since_new hfresh hgiven, hqueue, hnew, hact]
      rfl

/-- **Any number of acts keeps the tally.** -/
theorem course (ht : b.Tallies h) (acts : List Act) :
    (b.course acts).1.Tallies (h ++ (b.course acts).2) := by
  induction acts generalizing b h with
  | nil =>
    rw [Bus.course, List.append_nil]
    exact ht
  | cons a rest ih =>
    have hnext := ih (ht.react a)
    rw [List.append_assoc, List.singleton_append] at hnext
    exact hnext

end Tallies

/-! ### Subscriptions that go away -/

theorem filter_map_subscriptions {f : Subscription → Subscription} (hf : ∀ s, (f s).id = s.id)
    (id : Nat) (subscriptions : List Subscription) :
    (subscriptions.map f).filter (·.id ≠ id) = (subscriptions.filter (·.id ≠ id)).map f := by
  rw [List.filter_map]
  congr 2
  funext s
  simp [hf]

/-- Asking for a batch of a subscription that is not there takes nothing. -/
theorem react_receive (b : Bus) (id : Nat) : (b.react (.receive id)).1 = (b.receive id).1 := by
  rw [react]
  split
  · rfl
  · next hnone =>
    rw [find?, List.find?_isSome] at hnone
    have hsame : b.subscriptions.map (takeOldest id) = b.subscriptions := by
      conv_rhs => rw [← List.map_id b.subscriptions]
      refine List.map_congr_left fun s hs => ?_
      rw [takeOldest, if_neg fun hid => hnone ⟨s, hs, decide_eq_true hid⟩]
      rfl
    rw [receive, hsame]

theorem isOpen_unsubscribe (b : Bus) (id : Nat) : (b.unsubscribe id).isOpen = b.isOpen := rfl

/-- **Who has gone away makes no difference** to what the next act does with the others. -/
theorem react_unsubscribe {id : Nat} (hid : id < b.nextId) (a : Act) :
    ((b.unsubscribe id).react a).1 = (b.react a).1.unsubscribe id := by
  cases a with
  | subscribe entity =>
    let new : Subscription := { id := b.nextId, entity }
    have hnew : new.id ≠ id := (Nat.ne_of_lt hid).symm
    have hstays : [new].filter (·.id ≠ id) = [new] := by simp [hnew]
    have hkept : (b.subscriptions ++ [new]).filter (·.id ≠ id) =
        b.subscriptions.filter (·.id ≠ id) ++ [new] := by
      rw [List.filter_append, hstays]
    rw [react, react, isOpen_unsubscribe]
    split
    · rw [subscribe, unsubscribe, subscribe, unsubscribe, hkept]
    · rfl
  | publish entity batch =>
    rw [react, react, isOpen_unsubscribe]
    split
    · rw [publish, publish]
      split
      · rfl
      · rw [unsubscribe, unsubscribe, filter_map_subscriptions (id_deliver entity batch)]
    · rfl
  | receive receiver =>
    rw [react_receive, react_receive, receive, receive, unsubscribe, unsubscribe,
      filter_map_subscriptions (id_takeOldest receiver)]
  | drop other =>
    show (b.unsubscribe id).unsubscribe other = (b.unsubscribe other).unsubscribe id
    rw [unsubscribe, unsubscribe, unsubscribe, unsubscribe, List.filter_filter, List.filter_filter]
    congr 2
    funext s
    exact Bool.and_comm _ _
  | close => rfl

/-- The others are still found. -/
theorem find?_unsubscribe {id other : Nat} (hother : other ≠ id) :
    (b.unsubscribe id).find? other = b.find? other := by
  rw [unsubscribe, find?, find?, List.find?_filter]
  congr 1
  funext s
  by_cases hs : s.id = other
  · simp [hs, hother]
  · simp [hs]

/-- **The others get the same answer.** -/
theorem react_receive_unsubscribe {id other : Nat} (hother : other ≠ id) :
    ((b.unsubscribe id).react (.receive other)).2 = (b.react (.receive other)).2 := by
  have hqueue : (b.unsubscribe id).queue other = b.queue other := by
    rw [queue, queue, find?_unsubscribe hother]
  rw [react, react, find?_unsubscribe hother]
  split
  · rw [answer, answer, receive, receive, isExhausted, isExhausted, hqueue]
    rfl
  · rfl

/-- Numbers are not taken back. -/
theorem nextId_react (b : Bus) (a : Act) : b.nextId ≤ (b.react a).1.nextId := by
  have hlength := congrArg List.length (range_react b a)
  rw [List.length_append, List.length_range, List.length_range] at hlength
  omega

/-- **What the others receive** is what they would have received. -/
theorem course_unsubscribe {id other : Nat} (hid : id < b.nextId) (hother : other ≠ id)
    (acts : List Act) :
    ((b.unsubscribe id).course acts).2.filter (·.1 = .receive other) =
      (b.course acts).2.filter (·.1 = .receive other) := by
  induction acts generalizing b with
  | nil => rfl
  | cons a rest ih =>
    have hrest := ih (Nat.lt_of_lt_of_le hid (b.nextId_react a))
    rw [← react_unsubscribe hid] at hrest
    rw [course, course, List.filter_cons, List.filter_cons, hrest]
    by_cases ha : a = .receive other
    · subst ha
      rw [react_receive_unsubscribe hother]
    · simp only [ha, decide_false, if_neg Bool.false_ne_true]

/-! ### A bus that is gone -/

/-- **What is queued is still received**, in order, and then there is nothing more to expect. -/
theorem course_receives {id : Nat} {s : Subscription} (hgone : b.isOpen = false)
    (hs : b.find? id = some s) (n : Nat) :
    (b.course (List.replicate n (.receive id))).2.map (·.2) =
      (List.range n).map fun i => (s.queue[i]?.map Outcome.received).getD .closed := by
  induction n generalizing b s with
  | zero => rfl
  | succ n ih =>
    have hid : s.id = id := (mem_of_find? hs).2
    have hqueue : b.queue id = s.queue := by rw [queue, hs]
    have hanswer : b.answer id = (s.queue[0]?.map Outcome.received).getD .closed := by
      rw [answer, receive, hqueue, isExhausted, hgone, hqueue, List.head?_eq_getElem?]
      cases s.queue <;> rfl
    have hnext : (b.receive id).1.find? id = some { s with queue := s.queue.drop 1 } := by
      rw [receive, find?_map (id_takeOldest id), hs, Option.map_some, takeOldest, if_pos hid]
    rw [List.replicate_succ, course, react, if_pos (by rw [hs]; rfl), List.map_cons, hanswer,
      ih (b := (b.receive id).1) hgone hnext, List.range_succ_eq_map, List.map_cons, List.map_map]
    refine congrArg _ (List.map_congr_left fun i _ => ?_)
    rw [List.getElem?_drop, Nat.add_comm]
    rfl

/-! ### Delivery -/

/-- **What a bus promises**, after a history of acts. -/
structure Delivers (b : Bus) (h : History) : Prop where
  /-- No number is given twice. -/
  distinct : (given h).Nodup
  /-- A subscription is there if it was made and has not gone away since. -/
  present : ∀ id entity, (id, entity) ∈ live h ↔ (.subscribe entity, .subscribed id) ∈ h ∧
    ∀ entry ∈ since h id, entry.1 ≠ .drop id
  /-- The bus counts the subscriptions that are there. -/
  count : b.count = (live h).length
  /-- A batch reaches the subscriptions that are there and about its kind of thing; an empty one
  reaches nobody. -/
  reaches : isOver h = false → ∀ entity batch, (b.react (.publish entity batch)).2 =
    .reached (if batch.isEmpty then 0 else (live h).countP (·.2 = entity))
  /-- What a subscription has received and what is queued for it is what was published about its
  kind of thing since it was made. -/
  inOrder : ∀ id entity, (id, entity) ∈ live h →
    received h id ++ b.queue id = published (since h id) entity
  /-- The next answer is the batch after those that were received; or there is none yet, or none
  will come. -/
  answers : ∀ id entity, (id, entity) ∈ live h → (b.react (.receive id)).2 =
    ((published (since h id) entity)[(received h id).length]?.map Outcome.received).getD
      (if isOver h then .closed else .pending)
  /-- Whatever is done later, the others receive the same whether or not a subscription goes
  away now. -/
  apart : ∀ id entity, (id, entity) ∈ live h → ∀ acts other, other ≠ id →
    ((b.react (.drop id)).1.course acts).2.filter (·.1 = .receive other) =
      (b.course acts).2.filter (·.1 = .receive other)
  /-- When the bus is gone, a subscription still receives what is queued, and then it is closed. -/
  drained : isOver h = true → ∀ id entity, (id, entity) ∈ live h → ∀ n,
    (b.course (List.replicate n (.receive id))).2.map (·.2) =
      (List.range n).map fun i => ((b.queue id)[i]?.map Outcome.received).getD .closed

namespace Tallies

theorem count (ht : b.Tallies h) : b.count = (live h).length := by
  rw [← ht.roll, Bus.roll, List.length_map, Bus.count]

theorem reaches (ht : b.Tallies h) (hopen : isOver h = false) (entity : EntityKind)
    (batch : List Event) : (b.react (.publish entity batch)).2 =
      .reached (if batch.isEmpty then 0 else (live h).countP (·.2 = entity)) := by
  have hisOpen : b.isOpen = true := by rw [ht.isOpen, hopen, Bool.not_false]
  rw [Bus.react, if_pos hisOpen, publish]
  split
  · rfl
  · rw [← ht.roll, Bus.roll, List.countP_map]
    rfl

theorem inOrder (ht : b.Tallies h) {id : Nat} {entity : EntityKind}
    (hin : (id, entity) ∈ live h) : received h id ++ b.queue id = published (since h id) entity := by
  obtain ⟨s, hs, rfl, rfl⟩ := ht.exists_mem hin
  rw [queue_of_mem ht.distinct hs]
  exact ht.queues s hs

theorem answers (ht : b.Tallies h) {id : Nat} {entity : EntityKind}
    (hin : (id, entity) ∈ live h) : (b.react (.receive id)).2 =
      ((published (since h id) entity)[(received h id).length]?.map Outcome.received).getD
        (if isOver h then .closed else .pending) := by
  obtain ⟨s, hs, rfl, rfl⟩ := ht.exists_mem hin
  have hfound : (b.find? s.id).isSome = true := by rw [find?_of_mem ht.distinct hs]; rfl
  rw [← ht.inOrder hin, List.getElem?_append_right (Nat.le_refl _), Nat.sub_self, Bus.react,
    if_pos hfound, answer, receive, isExhausted, ht.isOpen, Bool.not_not]
  cases b.queue s.id with
  | nil => rw [List.head?_nil, List.isEmpty_nil, Bool.and_true]; rfl
  | cons batch rest => rfl

end Tallies

/-- **Nothing is lost, nothing comes twice, and nothing overtakes.** Let somebody subscribe, publish
and receive, and let subscriptions and the bus go away, in any order. Then the bus keeps what it
promises. -/
theorem delivers (acts : List Act) :
    (course {} acts).1.Delivers (course {} acts).2 := by
  have ht : (course {} acts).1.Tallies (course {} acts).2 := Tallies.empty.course acts
  have hid : ∀ {id entity}, (id, entity) ∈ live (course {} acts).2 →
      id < (course {} acts).1.nextId := by
    intro id entity hin
    rw [← List.mem_range, ← ht.given]
    exact (sublist_given _).subset (List.mem_map_of_mem (f := Prod.fst) hin)
  refine ⟨ht.nodup_given, fun _ _ => mem_live_iff ht.nodup_given, ht.count, ht.reaches,
    fun _ _ => ht.inOrder, fun _ _ => ht.answers, fun id entity hin later other hother => ?_,
    fun hover id entity hin n => ?_⟩
  · exact course_unsubscribe (hid hin) hother later
  · obtain ⟨s, hs, rfl, rfl⟩ := ht.exists_mem hin
    have hgone : (course {} acts).1.isOpen = false := by rw [ht.isOpen, hover, Bool.not_true]
    rw [queue_of_mem ht.distinct hs]
    exact course_receives hgone (find?_of_mem ht.distinct hs) n

/-- A batch that is still received when the bus is gone. -/
example :
    (course {} [.subscribe .news, .subscribe .feed, .publish .news [Event.deleted ⟨1⟩],
      .publish .news [], .drop 1, .close, .receive 0, .receive 0]).2.map (·.2) =
      [.subscribed 0, .subscribed 1, .reached 1, .reached 0, .nothing, .nothing,
        .received [Event.deleted ⟨1⟩], .closed] := rfl

end Bus

end LiveSearch
