import LiveSearch.Proofs.Bus.Course

/-!
# One act and a bus

What one act does to a bus is what its entry says in the history. It enrols the same subscriptions
(`Bus.roll_react`), it gives the next number or none (`Bus.range_react`), and what a subscription
has received in it and what is then queued for it is what was queued before and what was published
in it (`Bus.flows_react`).
-/

namespace LiveSearch

namespace Bus

open History

/-! ### Who is there -/

/-- The subscriptions of a bus, with what they are about. -/
def roll (b : Bus) : List (Nat × EntityKind) :=
  b.subscriptions.map fun s => (s.id, s.entity)

variable {b : Bus}

theorem entity_deliver (entity : EntityKind) (batch : List Event) (s : Subscription) :
    (deliver entity batch s).entity = s.entity := by
  rw [deliver]
  split <;> rfl

theorem entity_takeOldest (id : Nat) (s : Subscription) : (takeOldest id s).entity = s.entity := by
  rw [takeOldest]
  split <;> rfl

/-- Nobody comes or goes while the queues change. -/
theorem roll_map {f : Subscription → Subscription} (hid : ∀ s, (f s).id = s.id)
    (hentity : ∀ s, (f s).entity = s.entity) (b : Bus) :
    ({ b with subscriptions := b.subscriptions.map f } : Bus).roll = b.roll := by
  rw [roll, List.map_map, roll]
  refine List.map_congr_left fun s _ => ?_
  rw [Function.comp_apply, hid, hentity]

theorem roll_publish (b : Bus) (entity : EntityKind) (batch : List Event) :
    (b.publish entity batch).1.roll = b.roll := by
  rw [publish]
  split
  · rfl
  · exact roll_map (id_deliver entity batch) (entity_deliver entity batch) b

theorem roll_receive (b : Bus) (id : Nat) : (b.receive id).1.roll = b.roll :=
  roll_map (id_takeOldest id) (entity_takeOldest id) b

theorem roll_unsubscribe (b : Bus) (id : Nat) :
    (b.unsubscribe id).roll = b.roll.filter (·.1 ≠ id) := by
  rw [unsubscribe, roll, roll, List.filter_map]
  rfl

theorem answer_ne_subscribed (b : Bus) (id id' : Nat) : b.answer id ≠ .subscribed id' := by
  rw [answer]
  split
  · exact Outcome.noConfusion
  · split <;> exact Outcome.noConfusion

/-- **An act enrols** those that its entry in the history enrols. -/
theorem roll_react (b : Bus) (a : Act) : (b.react a).1.roll = enrol b.roll (a, (b.react a).2) := by
  cases a with
  | subscribe entity =>
    rw [react]
    split
    · rw [subscribe, roll, List.map_append]
      rfl
    · rfl
  | publish entity batch =>
    rw [react]
    split
    · exact b.roll_publish entity batch
    · rfl
  | receive id =>
    rw [react]
    split
    · exact b.roll_receive id
    · rfl
  | drop id => exact b.roll_unsubscribe id
  | close => rfl

/-- **An act gives the next number**, or none. -/
theorem range_react (b : Bus) (a : Act) :
    List.range (b.react a).1.nextId = List.range b.nextId ++ (given? (a, (b.react a).2)).toList := by
  cases a with
  | subscribe entity =>
    rw [react]
    split
    · exact List.range_succ
    · exact (List.append_nil _).symm
  | publish entity batch =>
    have hsame : (b.publish entity batch).1.nextId = b.nextId := by
      rw [publish]
      split <;> rfl
    rw [react]
    split
    · rw [hsame]
      exact (List.append_nil _).symm
    · exact (List.append_nil _).symm
  | receive id =>
    have hnone : given? (.receive id, b.answer id) = none := by
      rw [given?.eq_def]
      split
      · next heq => exact absurd (Prod.mk.inj heq).2 (b.answer_ne_subscribed id _)
      · rfl
    rw [react]
    split
    · rw [hnone]
      exact (List.append_nil _).symm
    · exact (List.append_nil _).symm
  | drop id => exact (List.append_nil _).symm
  | close => exact (List.append_nil _).symm

/-- Only its end takes a bus away. -/
theorem isOpen_react (b : Bus) (a : Act) :
    (b.react a).1.isOpen = (b.isOpen && !decide (a = .close)) := by
  cases a with
  | subscribe entity =>
    rw [react]
    split <;> simp [subscribe]
  | publish entity batch =>
    have hsame : (b.publish entity batch).1.isOpen = b.isOpen := by
      rw [publish]
      split <;> rfl
    rw [react]
    split <;> simp [hsame]
  | receive id =>
    rw [react]
    split <;> simp [receive]
  | drop id => simp [react, unsubscribe]
  | close => simp [react, close]

/-! ### One act and the queues -/

/-- The numbers of the subscriptions are distinct. -/
def Distinct (b : Bus) : Prop :=
  (b.subscriptions.map (·.id)).Nodup

theorem find?_of_mem (hd : b.Distinct) {s : Subscription} (hs : s ∈ b.subscriptions) :
    b.find? s.id = some s := by
  obtain ⟨nextId, subscriptions, isOpen⟩ := b
  show subscriptions.find? (·.id = s.id) = some s
  replace hd : (subscriptions.map (·.id)).Nodup := hd
  replace hs : s ∈ subscriptions := hs
  induction subscriptions with
  | nil => cases hs
  | cons first rest ih =>
    obtain ⟨hnew, hrest⟩ := List.nodup_cons.mp hd
    rcases List.mem_cons.mp hs with rfl | hmem
    · exact List.find?_cons_of_pos (by simp)
    · have hne : first.id ≠ s.id := fun heq => hnew (List.mem_map.mpr ⟨s, hmem, heq.symm⟩)
      rw [List.find?_cons_of_neg (by simpa using hne)]
      exact ih hrest hmem

theorem mem_of_find? {id : Nat} {s : Subscription} (hs : b.find? id = some s) :
    s ∈ b.subscriptions ∧ s.id = id := by
  rw [find?] at hs
  exact ⟨List.mem_of_find?_eq_some hs, by simpa using List.find?_some hs⟩

/-- The queue of a subscription that is there. -/
theorem queue_of_mem (hd : b.Distinct) {s : Subscription} (hs : s ∈ b.subscriptions) :
    b.queue s.id = s.queue := by
  rw [queue, find?_of_mem hd hs]

/-- Who receives a batch is there. -/
theorem mem_of_received? {a : Act} {id : Nat} {batch : List Event}
    (h : received? id (a, (b.react a).2) = some batch) :
    ∃ s ∈ b.subscriptions, s.id = id := by
  rw [received?.eq_def] at h
  split at h
  · next receiver received heq =>
    obtain ⟨rfl, houtcome⟩ := Prod.mk.inj heq
    split at h
    · next hid =>
      subst hid
      rw [react] at houtcome
      split at houtcome
      · next hfound =>
        obtain ⟨s, hs⟩ := Option.isSome_iff_exists.mp hfound
        exact ⟨s, mem_of_find? hs⟩
      · cases houtcome
    · cases h
  · cases h

/-- **A subscription in one act.** What it has received and what is then queued for it is what was
queued before and what was published. -/
structure Flows (e : Act × Outcome) (s s' : Subscription) : Prop where
  id : s.id = s'.id
  entity : s.entity = s'.entity
  queue : (received? s.id e).toList ++ s'.queue = s.queue ++ (published? s.entity e).toList

/-- Nothing is received, and nothing is published. -/
theorem Flows.still {e : Act × Outcome} {s : Subscription} (hreceived : received? s.id e = none)
    (hpublished : published? s.entity e = none) : Flows e s s := by
  refine ⟨rfl, rfl, ?_⟩
  rw [hreceived, hpublished]
  exact (List.append_nil _).symm

/-- A batch is received from the front of the queue. -/
theorem Flows.receive (hd : b.Distinct) {s : Subscription} (hs : s ∈ b.subscriptions) (id : Nat) :
    Flows (.receive id, b.answer id) s (takeOldest id s) := by
  refine ⟨(id_takeOldest id s).symm, (entity_takeOldest id s).symm, ?_⟩
  have hpublished : published? s.entity (.receive id, b.answer id) = none := rfl
  rw [hpublished, Option.toList_none, List.append_nil]
  by_cases hid : s.id = id
  · subst hid
    have hfront : (b.receive s.id).2 = s.queue.head? := by
      rw [Bus.receive, queue_of_mem hd hs]
    rw [takeOldest, if_pos rfl, answer, hfront]
    cases s.queue with
    | nil =>
      show (received? s.id (.receive s.id, if _ then Outcome.closed else .pending)).toList ++ [] = []
      split <;> rfl
    | cons batch rest => simp [received?]
  · rw [takeOldest, if_neg hid, received?.eq_def]
    split
    · next heq =>
      obtain ⟨hact, -⟩ := Prod.mk.inj heq
      rw [if_neg fun h => hid (h ▸ Act.receive.inj hact).symm]
      rfl
    · rfl

/-- A batch is published to the end of the queue. -/
theorem Flows.publish (s : Subscription) (entity : EntityKind) {batch : List Event}
    (hbatch : batch.isEmpty = false) (count : Nat) :
    Flows (.publish entity batch, .reached count) s (deliver entity batch s) := by
  refine ⟨(id_deliver entity batch s).symm, (entity_deliver entity batch s).symm, ?_⟩
  show [] ++ (deliver entity batch s).queue = _
  rw [List.nil_append, deliver, published?]
  by_cases hentity : s.entity = entity
  · rw [if_pos hentity, if_pos ⟨hentity.symm, hbatch⟩]
    rfl
  · rw [if_neg hentity, if_neg fun h => hentity h.1.symm]
    exact (List.append_nil _).symm

/-- Publishing to an open bus. -/
theorem flows_publish (b : Bus) (entity : EntityKind) (batch : List Event) {s' : Subscription}
    (hs' : s' ∈ (b.publish entity batch).1.subscriptions) :
    ∃ s ∈ b.subscriptions,
      Flows (.publish entity batch, .reached (b.publish entity batch).2) s s' := by
  rw [Bus.publish] at hs' ⊢
  split at hs'
  · next hempty =>
    have hnone : published? s'.entity (.publish entity batch, .reached 0) = none := by
      rw [published?, if_neg (by simp [hempty])]
    rw [if_pos hempty]
    exact ⟨s', hs', .still rfl hnone⟩
  · next hbatch =>
    obtain ⟨s, hs, rfl⟩ := List.mem_map.mp hs'
    rw [if_neg hbatch]
    exact ⟨s, hs, .publish s entity (by simpa using hbatch) _⟩

/-- **One act and the queues.** Every subscription that is there after an act was there before, or
is new and has an empty queue. -/
theorem flows_react (hd : b.Distinct) (a : Act) {s' : Subscription}
    (hs' : s' ∈ (b.react a).1.subscriptions) :
    (∃ s ∈ b.subscriptions, Flows (a, (b.react a).2) s s') ∨
      ∃ entity, a = .subscribe entity ∧ (b.react a).2 = .subscribed s'.id ∧ s'.id = b.nextId ∧
        s'.queue = [] := by
  cases a with
  | subscribe entity =>
    rw [react] at hs' ⊢
    split at hs'
    · next hopen =>
      rw [if_pos hopen]
      rcases List.mem_append.mp hs' with hold | hnew
      · exact Or.inl ⟨s', hold, .still rfl rfl⟩
      · obtain rfl := List.mem_singleton.mp hnew
        exact Or.inr ⟨entity, rfl, rfl, rfl, rfl⟩
    · next hopen =>
      rw [if_neg hopen]
      exact Or.inl ⟨s', hs', .still rfl rfl⟩
  | publish entity batch =>
    rw [react] at hs' ⊢
    split at hs'
    · next hopen =>
      rw [if_pos hopen]
      exact Or.inl (b.flows_publish entity batch hs')
    · next hopen =>
      rw [if_neg hopen]
      exact Or.inl ⟨s', hs', .still rfl rfl⟩
  | receive id =>
    rw [react] at hs' ⊢
    split at hs'
    · next hfound =>
      rw [if_pos hfound]
      obtain ⟨s, hs, rfl⟩ := List.mem_map.mp hs'
      exact Or.inl ⟨s, hs, .receive hd hs id⟩
    · next hfound =>
      rw [if_neg hfound]
      exact Or.inl ⟨s', hs', .still rfl rfl⟩
  | drop id => exact Or.inl ⟨s', (List.mem_filter.mp hs').1, .still rfl rfl⟩
  | close => exact Or.inl ⟨s', hs', .still rfl rfl⟩

end Bus

end LiveSearch
