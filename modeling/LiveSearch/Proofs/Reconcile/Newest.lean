import LiveSearch.Proofs.Reconcile.Buffer
import LiveSearch.Proofs.Reconcile.Latest
import LiveSearch.Proofs.Reconcile.Tally

/-!
# The newest events

Of a list of events, the latest about each reference are all that anybody needs to keep. These are
the **newest** events (`Event.newest`), and they stand in the order in which they arrived
(`Event.pairwise_newest`), which is not that in which their references were first heard of: an event
that supersedes an older one takes it out of its place and goes to the end.

There are as many of them as there are references that well-formed events are about
(`Event.length_newest`).
-/

namespace LiveSearch

namespace Event

/-! ### The newest events -/

/-- **The newest events**: of each reference the latest, in the order in which they arrived. -/
def newest (events : List Event) : List Event :=
  events.foldl
    (fun kept e => if e.isMalformed then kept else kept.filter (·.ref ≠ e.ref) ++ [e]) []

/-- When the latest event about a reference arrived: its place in the list, counted from one, and
zero where no event concerns the reference. -/
def arrival (events : List Event) (ref : Reference) : Nat :=
  events.length - events.reverse.findIdx (concerns ref)

/-- The references that well-formed events are about, each once. -/
def mentioned (events : List Event) : List Reference :=
  ((events.filter fun e => !e.isMalformed).map (·.ref)).eraseDups

theorem newest_concat (events : List Event) (e : Event) :
    newest (events ++ [e]) =
      if e.isMalformed then newest events else (newest events).filter (·.ref ≠ e.ref) ++ [e] := by
  rw [newest, List.foldl_append]
  rfl

theorem arrival_concat (events : List Event) (e : Event) (ref : Reference) :
    arrival (events ++ [e]) ref =
      if e.concerns ref then events.length + 1 else arrival events ref := by
  rw [arrival, arrival, List.reverse_append, List.reverse_singleton, List.singleton_append,
    List.findIdx_cons, List.length_append, List.length_singleton]
  by_cases h : e.concerns ref <;> simp [h]

theorem arrival_le (events : List Event) (ref : Reference) :
    arrival events ref ≤ events.length :=
  Nat.sub_le _ _

theorem nodup_newest (events : List Event) : ((newest events).map (·.ref)).Nodup := by
  induction events using List.reverseRecOn with
  | nil => exact List.nodup_nil
  | append_singleton events e ih =>
    rw [newest_concat]
    split
    · exact ih
    · exact ReplayBuffer.nodup_refs_replace ih e

/-- **The newest events are the latest about their references.** -/
theorem mem_newest {events : List Event} {e : Event} :
    e ∈ newest events ↔ latest? events e.ref = some e := by
  induction events using List.reverseRecOn generalizing e with
  | nil => simp [newest]
  | append_singleton events last ih =>
    rw [newest_concat, latest?_concat]
    by_cases hmal : last.isMalformed
    · have hnot : last.concerns e.ref = false := by simp [concerns, hmal]
      rw [if_pos hmal, hnot, if_neg (by simp), ih]
    · rw [if_neg hmal, List.mem_append, List.mem_filter, List.mem_singleton, ih]
      by_cases href : last.ref = e.ref
      · have hconcerns : last.concerns e.ref = true := by simp [concerns, href, hmal]
        rw [if_pos hconcerns]
        simp [href, eq_comm]
      · have hnot : last.concerns e.ref = false := by simp [concerns, href]
        rw [hnot, if_neg (by simp)]
        constructor
        · rintro (⟨hold, -⟩ | rfl)
          · exact hold
          · exact absurd rfl href
        · exact fun hold => Or.inl ⟨hold, by simpa using Ne.symm href⟩

/-- **The newest events stand in the order in which they arrived.** -/
theorem pairwise_newest (events : List Event) :
    (newest events).Pairwise fun a b => arrival events a.ref < arrival events b.ref := by
  induction events using List.reverseRecOn with
  | nil => exact List.Pairwise.nil
  | append_singleton events e ih =>
    rw [newest_concat]
    by_cases hmal : e.isMalformed
    · have hsame : ∀ ref, arrival (events ++ [e]) ref = arrival events ref := by
        intro ref
        rw [arrival_concat, concerns, hmal, Bool.not_true, Bool.and_false, if_neg (by simp)]
      rw [if_pos hmal]
      simpa only [hsame] using ih
    · have hold : ∀ ref, ref ≠ e.ref → arrival (events ++ [e]) ref = arrival events ref := by
        intro ref hne
        rw [arrival_concat, concerns, decide_eq_false (Ne.symm hne), Bool.false_and,
          if_neg (by simp)]
      have hnew : arrival (events ++ [e]) e.ref = events.length + 1 := by
        rw [arrival_concat, if_pos (by simp [concerns, hmal])]
      rw [if_neg hmal, List.pairwise_append]
      refine ⟨?_, List.pairwise_singleton _ _, ?_⟩
      · refine (ih.filter _).imp_of_mem fun {a b} ha hb hlt => ?_
        rwa [hold _ (by simpa using (List.mem_filter.mp ha).2),
          hold _ (by simpa using (List.mem_filter.mp hb).2)]
      · intro a ha b hb
        obtain rfl := List.mem_singleton.mp hb
        rw [hold _ (by simpa using (List.mem_filter.mp ha).2), hnew]
        exact Nat.lt_succ_of_le (arrival_le events a.ref)

/-! ### How many there are -/

theorem mem_mentioned {events : List Event} {ref : Reference} :
    ref ∈ mentioned events ↔ (latest? events ref).isSome = true := by
  rw [mentioned, List.mem_eraseDups, List.mem_map, latest?_isSome_iff]
  constructor
  · rintro ⟨e, he, rfl⟩
    obtain ⟨hmem, hwell⟩ := List.mem_filter.mp he
    exact ⟨e, hmem, by simpa [concerns] using hwell⟩
  · rintro ⟨e, he, hconcerns⟩
    obtain ⟨href, hwell⟩ := concerns_iff.mp hconcerns
    exact ⟨e, List.mem_filter.mpr ⟨he, by simp [hwell]⟩, href⟩

theorem mem_refs_newest {events : List Event} {ref : Reference} :
    ref ∈ (newest events).map (·.ref) ↔ (latest? events ref).isSome = true := by
  rw [List.mem_map, Option.isSome_iff_exists]
  constructor
  · rintro ⟨e, he, rfl⟩
    exact ⟨e, mem_newest.mp he⟩
  · rintro ⟨e, he⟩
    obtain ⟨rfl, -⟩ := concerns_iff.mp (concerns_of_latest? he)
    exact ⟨e, mem_newest.mpr he, rfl⟩

/-- The references of the newest events are those that well-formed events are about. -/
theorem perm_refs_newest (events : List Event) :
    ((newest events).map (·.ref)).Perm (mentioned events) := by
  have hnodup : (mentioned events).Nodup := nodup_eraseDups _
  refine (List.perm_ext_iff_of_nodup (nodup_newest events) hnodup).mpr fun ref => ?_
  rw [mem_refs_newest, mem_mentioned]

/-- **There are as many newest events as there are references that events are about.** -/
theorem length_newest (events : List Event) :
    (newest events).length = (mentioned events).length := by
  rw [← (perm_refs_newest events).length_eq, List.length_map]

/-- A newest event is a removal or a refresh. -/
theorem length_newest_eq_add (events : List Event) :
    (newest events).length =
      (newest events).countP isRemoval + (newest events).countP isRefresh := by
  rw [List.length_eq_countP_add_countP isRemoval]
  refine congrArg _ (List.countP_congr fun e he => ?_)
  have hwell := (concerns_iff.mp (concerns_of_latest? (mem_newest.mp he))).2
  simp [isRefresh_eq_not_isRemoval hwell]

/-- There are as many removals among them as there are references whose latest event is one. -/
theorem countP_newest (events : List Event) :
    (newest events).countP isRemoval =
      (mentioned events).countP fun ref => (latest? events ref).any isRemoval := by
  rw [← (perm_refs_newest events).countP_eq, List.countP_map]
  refine List.countP_congr fun e he => ?_
  rw [Function.comp_apply, mem_newest.mp he, Option.any_some]

end Event

end LiveSearch
