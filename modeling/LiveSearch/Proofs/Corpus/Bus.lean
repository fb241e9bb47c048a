import LiveSearch.Bus

/-!
# The queue of one subscription

What publishing and receiving do to the queue of a single subscription to the changes of items. A
batch that is published stands at the end of the queue, unless it is empty
(`Bus.queue_publish`); what is received stood at its front (`Bus.queue_receive`).
-/

namespace LiveSearch

namespace Bus

variable {b : Bus} {id : Nat}

/-- There is a subscription with the number, and it is about items. -/
def Listens (b : Bus) (id : Nat) : Prop :=
  ∃ s, b.find? id = some s ∧ s.entity = .news

/-- The subscription with a number after all subscriptions have changed, but for their numbers. -/
theorem find?_map {f : Subscription → Subscription} (hf : ∀ s, (f s).id = s.id) (b : Bus)
    (id : Nat) :
    ({ b with subscriptions := b.subscriptions.map f } : Bus).find? id = (b.find? id).map f := by
  have hsame : ((fun s : Subscription => decide (s.id = id)) ∘ f) =
      fun s => decide (s.id = id) := by
    funext s
    simp [hf]
  rw [find?, find?, List.find?_map, hsame]

/-! ### Publishing -/

theorem id_deliver (entity : EntityKind) (batch : List Event) (s : Subscription) :
    (deliver entity batch s).id = s.id := by
  rw [deliver]
  split <;> rfl

theorem Listens.publish (h : b.Listens id) (entity : EntityKind) (batch : List Event) :
    (b.publish entity batch).1.Listens id := by
  rw [Bus.publish]
  split
  · exact h
  · obtain ⟨s, hs, hentity⟩ := h
    refine ⟨deliver entity batch s, ?_, ?_⟩
    · rw [find?_map (id_deliver entity batch), hs, Option.map_some]
    · rw [deliver]
      split <;> exact hentity

/-- **A published batch stands at the end of the queue**, unless it is empty. -/
theorem queue_publish (h : b.Listens id) (batch : List Event) :
    (b.publish .news batch).1.queue id =
      b.queue id ++ if batch.isEmpty then [] else [batch] := by
  rw [Bus.publish]
  by_cases hempty : batch.isEmpty
  · rw [if_pos hempty, if_pos hempty, List.append_nil]
  · obtain ⟨s, hs, hentity⟩ := h
    rw [if_neg hempty, if_neg hempty, queue, find?_map (id_deliver .news batch), queue, hs,
      Option.map_some, deliver, if_pos hentity]

/-- The queued events after a publication. -/
theorem flatten_queue_publish (h : b.Listens id) (batch : List Event) :
    ((b.publish .news batch).1.queue id).flatten = (b.queue id).flatten ++ batch := by
  rw [queue_publish h, List.flatten_append]
  by_cases hempty : batch.isEmpty
  · rw [if_pos hempty, List.isEmpty_iff.mp hempty]
    rfl
  · rw [if_neg hempty, List.flatten_singleton]

/-! ### Receiving -/

theorem id_takeOldest (id : Nat) (s : Subscription) : (takeOldest id s).id = s.id := by
  rw [takeOldest]
  split <;> rfl

theorem Listens.receive (h : b.Listens id) : (b.receive id).1.Listens id := by
  obtain ⟨s, hs, hentity⟩ := h
  refine ⟨takeOldest id s, ?_, ?_⟩
  · rw [Bus.receive, find?_map (id_takeOldest id), hs, Option.map_some]
  · rw [takeOldest]
    split <;> exact hentity

/-- **What is received stood at the front of the queue.** -/
theorem queue_receive (h : b.Listens id) {batch : List Event}
    (hbatch : (b.receive id).2 = some batch) :
    b.queue id = batch :: (b.receive id).1.queue id := by
  obtain ⟨s, hs, -⟩ := h
  have hid : s.id = id := by simpa using List.find?_some hs
  have hqueue : (b.receive id).1.queue id = s.queue.drop 1 := by
    rw [Bus.receive, queue, find?_map (id_takeOldest id), hs, Option.map_some, takeOldest,
      if_pos hid]
  rw [Bus.receive, queue, hs] at hbatch
  rw [hqueue, queue, hs]
  obtain ⟨rest, hrest⟩ := List.head?_eq_some_iff.mp hbatch
  simp only at hrest ⊢
  rw [hrest, List.drop_one, List.tail_cons]

/-! ### Subscribing -/

/-- The numbers of a bus are its own: none that is still to come has been given. -/
def Numbered (b : Bus) : Prop :=
  ∀ s ∈ b.subscriptions, s.id < b.nextId

theorem numbered_empty : Numbered {} := by
  intro s hs
  cases hs

theorem Numbered.subscribe (h : b.Numbered) (entity : EntityKind) :
    (b.subscribe entity).1.Numbered := by
  intro s hs
  rcases List.mem_append.mp hs with hs | hs
  · exact Nat.lt_succ_of_lt (h s hs)
  · rw [List.mem_singleton.mp hs]
    exact Nat.lt_succ_self _

theorem Numbered.publish (h : b.Numbered) (entity : EntityKind) (batch : List Event) :
    (b.publish entity batch).1.Numbered := by
  rw [Bus.publish]
  split
  · exact h
  · intro s hs
    obtain ⟨s', hs', rfl⟩ := List.mem_map.mp hs
    rw [id_deliver]
    exact h s' hs'

/-- **A new subscription** to the changes of items begins with an empty queue. -/
theorem find?_subscribe (h : b.Numbered) :
    (b.subscribe .news).1.find? (b.subscribe .news).2 =
      some { id := b.nextId, entity := .news } := by
  have hnone : b.subscriptions.find? (fun s => decide (s.id = b.nextId)) = none := by
    rw [List.find?_eq_none]
    intro s hs
    -- the new number is larger than all that were given
    have := h s hs
    simp only [decide_eq_true_eq]
    omega
  rw [subscribe, find?, List.find?_append, hnone, Option.none_or]
  simp

theorem listens_subscribe (h : b.Numbered) :
    (b.subscribe .news).1.Listens (b.subscribe .news).2 :=
  ⟨_, find?_subscribe h, rfl⟩

theorem queue_subscribe (h : b.Numbered) :
    (b.subscribe .news).1.queue (b.subscribe .news).2 = [] := by
  rw [queue, find?_subscribe h]

end Bus

end LiveSearch
