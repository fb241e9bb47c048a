import LiveSearch.Proofs.Reconcile.LastWord
import LiveSearch.Reconcile.Replay
import Mathlib.Data.List.Basic
import Mathlib.Data.List.Perm.Subperm

/-!
# What a replay buffer holds

A replay buffer **holds** the events that it has heard (`ReplayBuffer.Holds`) in the sense that
matters for a replay: on a reference that was not evicted its events have the same last word as all
that was heard, and on an evicted reference its events are silent, while the last word heard was a
refresh. A removal is therefore never lost.

The buffer keeps at most one event for a reference. This is what makes an eviction complete: the
event that gives way was all that the buffer had on its reference. It also means that a buffer with
room for as many references as it hears of evicts nothing (`ReplayBuffer.HasRoom`).
-/

namespace LiveSearch

namespace ReplayBuffer

/-! ### Giving way -/

theorem keepNewest_sublist (excess : Nat) (es : List Event) :
    (keepNewest excess es).Sublist es := by
  induction es generalizing excess with
  | nil =>
    cases excess with
    | zero => exact List.Sublist.refl _
    | succ n => exact List.Sublist.refl _
  | cons e es ih =>
    cases excess with
    | zero => exact List.Sublist.refl _
    | succ n =>
      rw [keepNewest]
      split
      · exact (ih n).cons e
      · exact (ih (n + 1)).cons_cons e

theorem oldestRefreshes_cons_of_refresh {e : Event} (h : e.isRefresh = true) (n : Nat)
    (es : List Event) : oldestRefreshes (n + 1) (e :: es) = e.ref :: oldestRefreshes n es := by
  rw [oldestRefreshes, List.filter_cons_of_pos h, List.take_succ_cons, List.map_cons]
  rfl

theorem oldestRefreshes_cons_of_not {e : Event} (h : ¬e.isRefresh = true) (n : Nat)
    (es : List Event) : oldestRefreshes n (e :: es) = oldestRefreshes n es := by
  rw [oldestRefreshes, List.filter_cons_of_neg h]
  rfl

theorem exists_of_isRefresh {e : Event} (h : e.isRefresh = true) :
    ∃ item, e.action? = some (.refresh item) := by
  rw [Event.isRefresh] at h
  split at h
  · next item heq => exact ⟨item, heq⟩
  · cases h

/-- **What giving way does to last words**, where no reference has two events: it silences those
whose refresh gives way, and leaves all others. -/
theorem lastWord?_keepNewest {es : List Event} (hnodup : (es.map (·.ref)).Nodup) (n : Nat)
    (ref : Reference) :
    (ref ∈ oldestRefreshes n es → Event.lastWord? (keepNewest n es) ref = none ∧
        ∃ item, Event.lastWord? es ref = some (.refresh item)) ∧
      (ref ∉ oldestRefreshes n es →
        Event.lastWord? (keepNewest n es) ref = Event.lastWord? es ref) := by
  induction es generalizing n with
  | nil => cases n <;> simp [oldestRefreshes, keepNewest]
  | cons e es ih =>
    obtain ⟨hfirst, hrest⟩ := List.nodup_cons.mp hnodup
    have hnone : Event.lastWord? es e.ref = none :=
      Event.lastWord?_eq_none fun e' he' href => hfirst (List.mem_map.mpr ⟨e', he', href⟩)
    cases n with
    | zero => simp [oldestRefreshes, keepNewest]
    | succ n =>
      by_cases hrefresh : e.isRefresh
      -- the first event gives way, and there is no other for its reference
      · rw [oldestRefreshes_cons_of_refresh hrefresh, keepNewest, if_pos hrefresh]
        obtain ⟨ih1, ih2⟩ := ih hrest n
        by_cases href : e.ref = ref
        · obtain ⟨item, hact⟩ := exists_of_isRefresh hrefresh
          refine ⟨fun _ => ⟨?_, item, ?_⟩, fun hnot => absurd (by simp [href]) hnot⟩
          · refine Event.lastWord?_eq_none fun e' he' heq => hfirst (List.mem_map.mpr ⟨e', ?_, ?_⟩)
            · exact (keepNewest_sublist n es).subset he'
            · exact heq.trans href.symm
          · rw [Event.lastWord?_cons, ← href, hnone, Option.none_or, Event.asks?, if_pos rfl, hact]
        · have hsame : Event.lastWord? (e :: es) ref = Event.lastWord? es ref := by
            rw [Event.lastWord?_cons, Event.asks?, if_neg href, Option.or_none]
          rw [hsame]
          refine ⟨fun hmem => ih1 ?_, fun hnot => ih2 fun hmem => hnot ?_⟩
          · rcases List.mem_cons.mp hmem with heq | hmem
            · exact absurd heq.symm href
            · exact hmem
          · exact List.mem_cons_of_mem _ hmem
      -- the first event stays
      · rw [oldestRefreshes_cons_of_not hrefresh, keepNewest, if_neg hrefresh]
        obtain ⟨ih1, ih2⟩ := ih hrest (n + 1)
        constructor
        · intro hmem
          obtain ⟨hsilent, item, hword⟩ := ih1 hmem
          have href : e.ref ≠ ref := by
            rintro rfl
            rw [hnone] at hword
            cases hword
          refine ⟨?_, item, ?_⟩
          · rw [Event.lastWord?_cons, hsilent, Event.asks?, if_neg href, Option.none_or]
          · rw [Event.lastWord?_cons, hword, Option.some_or]
        · intro hnot
          rw [Event.lastWord?_cons, Event.lastWord?_cons, ih2 hnot]

/-- An event that takes the place of what was there for its reference is the only one for it. -/
theorem nodup_refs_replace {es : List Event} (h : (es.map (·.ref)).Nodup) (e : Event) :
    ((es.filter (·.ref ≠ e.ref) ++ [e]).map (·.ref)).Nodup := by
  rw [List.map_append, List.nodup_append]
  refine ⟨h.sublist (List.filter_sublist.map _), by simp, ?_⟩
  intro x hx y hy hxy
  obtain ⟨e', he', rfl⟩ := List.mem_map.mp hx
  obtain rfl : y = e.ref := by simpa using hy
  simpa [hxy] using (List.mem_filter.mp he').2

/-! ### Holding what was heard -/

/-- **The buffer holds what it has heard.** -/
structure Holds (b : ReplayBuffer) (heard : List Event) : Prop where
  /-- No reference has two events. -/
  distinct : (b.events.map (·.ref)).Nodup
  /-- On a reference that is not evicted the buffer has the last word. -/
  kept : ∀ ref, ref ∉ b.evicted → Event.lastWord? b.events ref = Event.lastWord? heard ref
  /-- On an evicted reference the buffer is silent, and the last word was a refresh. -/
  evicted : ∀ ref, ref ∈ b.evicted → Event.lastWord? b.events ref = none ∧
    ∃ item, Event.lastWord? heard ref = some (.refresh item)

namespace Holds

variable {b : ReplayBuffer} {heard : List Event}

theorem nil (hb : b.events = [] ∧ b.evicted = []) : b.Holds [] := by
  obtain ⟨hevents, hevicted⟩ := hb
  refine ⟨by simp [hevents], fun ref _ => by rw [hevents], fun ref hmem => ?_⟩
  rw [hevicted] at hmem
  cases hmem

/-- Cutting the buffer back evicts what it can no longer hold. -/
theorem shrink (h : b.Holds heard) : b.shrink.Holds heard := by
  have hsub := keepNewest_sublist (b.size - b.capacity) b.events
  refine ⟨h.distinct.sublist (hsub.map _), fun ref hnot => ?_, fun ref hmem => ?_⟩
  · obtain ⟨hold, hnew⟩ := not_or.mp (mt List.mem_append.mpr hnot)
    exact ((lastWord?_keepNewest h.distinct _ ref).2 hnew).trans (h.kept ref hold)
  · rcases List.mem_append.mp hmem with hold | hnew
    · obtain ⟨hsilent, item, hword⟩ := h.evicted ref hold
      refine ⟨?_, item, hword⟩
      -- no reference is evicted twice, but the argument need not know it
      by_cases hnew : ref ∈ oldestRefreshes (b.size - b.capacity) b.events
      · exact ((lastWord?_keepNewest h.distinct _ ref).1 hnew).1
      · exact ((lastWord?_keepNewest h.distinct _ ref).2 hnew).trans hsilent
    · obtain ⟨hsilent, item, hword⟩ := (lastWord?_keepNewest h.distinct _ ref).1 hnew
      refine ⟨hsilent, item, ?_⟩
      -- the buffer is silent on what was evicted before, so this reference is not among it
      by_cases hold : ref ∈ b.evicted
      · rw [(h.evicted ref hold).1] at hword
        cases hword
      · rw [← h.kept ref hold, hword]

/-- A well-formed event takes the place of what was there for its reference. -/
theorem replace (h : b.Holds heard) {e : Event} {a : Action} (ha : e.action? = some a) :
    Holds { b with events := b.events.filter (·.ref ≠ e.ref) ++ [e]
                   evicted := b.evicted.filter (· ≠ e.ref) } (heard ++ [e]) := by
  have hother : ∀ ref, e.ref ≠ ref →
      Event.lastWord? (b.events.filter (·.ref ≠ e.ref) ++ [e]) ref =
        Event.lastWord? b.events ref := by
    intro ref hne
    rw [Event.lastWord?_append, Event.lastWord?_singleton, Event.asks?, if_neg hne,
      Option.none_or, Event.lastWord?, Event.lastWord?, List.filterMap_filter]
    refine congrArg List.getLast? (List.filterMap_congr fun e' _ => ?_)
    by_cases heq : e'.ref = e.ref
    · simp [heq, Event.asks?, hne]
    · simp [heq]
  have hheard : ∀ ref, e.ref ≠ ref →
      Event.lastWord? (heard ++ [e]) ref = Event.lastWord? heard ref := by
    intro ref hne
    rw [Event.lastWord?_append, Event.lastWord?_singleton, Event.asks?, if_neg hne,
      Option.none_or]
  refine ⟨?_, fun ref hnot => ?_, fun ref hmem => ?_⟩
  · exact nodup_refs_replace h.distinct e
  · by_cases href : e.ref = ref
    · rw [Event.lastWord?_append, Event.lastWord?_append, Event.lastWord?_singleton,
        Event.asks?, if_pos href, ha, Option.some_or, Option.some_or]
    · rw [hother ref href, hheard ref href]
      refine h.kept ref fun hmem => hnot (List.mem_filter.mpr ⟨hmem, ?_⟩)
      simpa using Ne.symm href
  · obtain ⟨hmem, hne⟩ := List.mem_filter.mp hmem
    have href : e.ref ≠ ref := fun heq => by simp [heq] at hne
    rw [hother ref href, hheard ref href]
    exact h.evicted ref hmem

theorem push (h : b.Holds heard) (e : Event) : (b.push e).Holds (heard ++ [e]) := by
  rw [ReplayBuffer.push]
  cases ha : e.action? with
  | none =>
    -- a malformed event is not kept, and says nothing either
    have hsame : ∀ ref, Event.lastWord? (heard ++ [e]) ref = Event.lastWord? heard ref := by
      intro ref
      rw [Event.lastWord?_append, Event.lastWord?_singleton, Event.asks?, ha, ite_self,
        Option.none_or]
    refine ⟨h.distinct, fun ref hnot => ?_, fun ref hmem => ?_⟩
    · rw [hsame]
      exact h.kept ref hnot
    · rw [hsame]
      exact h.evicted ref hmem
  | some a => exact (h.replace ha).shrink

/-- **A buffer that holds what it has heard goes on to do so** as further events arrive. -/
theorem extend (h : b.Holds heard) (batch : List Event) :
    (b.extend batch).Holds (heard ++ batch) := by
  induction batch generalizing b heard with
  | nil =>
    rw [List.append_nil]
    exact h
  | cons e batch ih =>
    have hnext := ih (h.push e)
    rw [List.append_assoc, List.singleton_append] at hnext
    exact hnext

end Holds

/-! ### Room for everything -/

/-- Hearing of two lists of events one after the other is hearing of both. -/
theorem extend_append (b : ReplayBuffer) (xs ys : List Event) :
    b.extend (xs ++ ys) = (b.extend xs).extend ys := by
  rw [extend, extend, extend, List.foldl_append]

/-- Hearing events does not change how much a buffer is meant to hold. -/
theorem capacity_extend (b : ReplayBuffer) (batch : List Event) :
    (b.extend batch).capacity = b.capacity := by
  induction batch generalizing b with
  | nil => rfl
  | cons e batch ih =>
    have hpush : (b.push e).capacity = b.capacity := by
      rw [push]
      split <;> rfl
    exact (ih (b.push e)).trans hpush

/-- A buffer that is not too large stays as it is. -/
theorem shrink_of_le {b : ReplayBuffer} (h : b.size ≤ b.capacity) : b.shrink = b := by
  have hexcess : b.size - b.capacity = 0 := Nat.sub_eq_zero_of_le h
  have hnone : oldestRefreshes 0 b.events = [] := by
    rw [oldestRefreshes, List.take_zero, List.map_nil]
  rw [shrink, hexcess, hnone, keepNewest, List.append_nil]

/-- **The buffer has room** for some references, and has heard of no others. -/
structure HasRoom (b : ReplayBuffer) (room : List Reference) : Prop where
  /-- There are no more of them than the buffer may hold. -/
  enough : room.length ≤ b.capacity
  /-- The buffered events are about them. -/
  kept : ∀ e ∈ b.events, e.ref ∈ room
  /-- No reference has two events. -/
  distinct : (b.events.map (·.ref)).Nodup
  /-- Nothing had to give way. -/
  evicted : b.evicted = []

namespace HasRoom

variable {b : ReplayBuffer} {room : List Reference}

/-- There are at most as many buffered events as there are references to have one. -/
theorem size_le (h : b.HasRoom room) : b.size ≤ b.capacity := by
  have hsub : b.events.map (·.ref) ⊆ room := by
    intro ref href
    obtain ⟨e, he, rfl⟩ := List.mem_map.mp href
    exact h.kept e he
  have hle : (b.events.map (·.ref)).length ≤ room.length := (h.distinct.subperm hsub).length_le
  rw [List.length_map] at hle
  exact Nat.le_trans hle h.enough

theorem push (h : b.HasRoom room) {e : Event} (he : e.ref ∈ room) : (b.push e).HasRoom room := by
  rw [ReplayBuffer.push]
  split
  · exact h
  · have hnext : HasRoom { b with
        events := b.events.filter (·.ref ≠ e.ref) ++ [e]
        evicted := b.evicted.filter (· ≠ e.ref) } room := by
      refine ⟨h.enough, ?_, nodup_refs_replace h.distinct e, ?_⟩
      · intro e' he'
        rcases List.mem_append.mp he' with hold | hnew
        · exact h.kept e' (List.mem_filter.mp hold).1
        · rw [List.mem_singleton.mp hnew]
          exact he
      · rw [h.evicted, List.filter_nil]
    rw [shrink_of_le hnext.size_le]
    exact hnext

/-- **A buffer with room for all that it hears of evicts nothing.** -/
theorem extend {batch : List Event} (h : b.HasRoom room) (hb : ∀ e ∈ batch, e.ref ∈ room) :
    (b.extend batch).HasRoom room := by
  induction batch generalizing b with
  | nil => exact h
  | cons e batch ih =>
    exact ih (h.push (hb e List.mem_cons_self)) fun e' he' => hb e' (List.mem_cons_of_mem _ he')

end HasRoom

end ReplayBuffer

end LiveSearch
