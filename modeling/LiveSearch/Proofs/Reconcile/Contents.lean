import LiveSearch.Proofs.Reconcile.Newest

/-!
# The contents of a replay buffer

What a replay buffer contains depends only on what it has heard since it was last emptied
(`ReplayBuffer.Contents`). Of what it has heard, the newest events are what there is to keep. The
buffer gives up the oldest refreshes among them, as many as it has to: never one without need, and
never a removal.

An event at a time, this is kept true (`ReplayBuffer.KeepsNewest`): **the evicted references are
those of the oldest refreshes, and the buffer has all the others.** An event for an evicted
reference takes it out of the evicted ones and puts it at the end of the kept ones, and an eviction
takes the oldest refresh of the kept ones and puts it at the end of the evicted ones; so both stay
in order of arrival.
-/

namespace LiveSearch.ReplayBuffer

/-- The references with a buffered event. -/
def refs (b : ReplayBuffer) : List Reference :=
  b.events.map (·.ref)

/-! ### Giving way, seen from the references -/

/-- The refreshes that give way are told by their references, where no reference has two events. -/
theorem keepNewest_eq_filter {es : List Event} (hnodup : (es.map (·.ref)).Nodup) (n : Nat) :
    keepNewest n es = es.filter (·.ref ∉ oldestRefreshes n es) := by
  induction es generalizing n with
  | nil => cases n <;> rfl
  | cons e es ih =>
    obtain ⟨hfirst, hrest⟩ := List.nodup_cons.mp hnodup
    cases n with
    | zero => simp [keepNewest, oldestRefreshes]
    | succ n =>
      rw [keepNewest]
      split
      · next hrefresh =>
        rw [oldestRefreshes_cons_of_refresh hrefresh, List.filter_cons_of_neg (by simp), ih hrest]
        refine List.filter_congr fun e' he' => ?_
        have hne : e'.ref ≠ e.ref := fun heq => hfirst (List.mem_map.mpr ⟨e', he', heq⟩)
        simp [hne]
      · next hrefresh =>
        have hnot : e.ref ∉ oldestRefreshes (n + 1) es := by
          intro hmem
          obtain ⟨e', he', href⟩ := List.mem_map.mp hmem
          have hin : e' ∈ es := (List.mem_filter.mp (List.mem_of_mem_take he')).1
          exact hfirst (List.mem_map.mpr ⟨e', hin, href⟩)
        rw [oldestRefreshes_cons_of_not hrefresh, List.filter_cons_of_pos (by simpa using hnot),
          ih hrest]

theorem oldestRefreshes_eq_take (n : Nat) (es : List Event) :
    oldestRefreshes n es = ((es.filter Event.isRefresh).map (·.ref)).take n :=
  List.map_take

theorem filter_keepNewest (n : Nat) (es : List Event) :
    (keepNewest n es).filter Event.isRefresh = (es.filter Event.isRefresh).drop n := by
  induction es generalizing n with
  | nil => cases n <;> rfl
  | cons e es ih =>
    cases n with
    | zero => rfl
    | succ n =>
      rw [keepNewest]
      split
      · next hrefresh => rw [List.filter_cons_of_pos hrefresh, List.drop_succ_cons, ih]
      · next hrefresh => rw [List.filter_cons_of_neg hrefresh, List.filter_cons_of_neg hrefresh, ih]

theorem length_keepNewest (n : Nat) (es : List Event) :
    (keepNewest n es).length + min n (es.countP Event.isRefresh) = es.length := by
  induction es generalizing n with
  | nil => cases n <;> rfl
  | cons e es ih =>
    cases n with
    | zero => simp [keepNewest]
    | succ n =>
      rw [keepNewest]
      split
      · next hrefresh =>
        have hrest := ih n
        rw [List.countP_cons_of_pos hrefresh, List.length_cons]
        omega
      · next hrefresh =>
        have hrest := ih (n + 1)
        rw [List.countP_cons_of_neg hrefresh, List.length_cons, List.length_cons]
        omega

/-- Where no reference has two events, one at most is about a given one. -/
theorem length_le_filter_ne {es : List Event} (hnodup : (es.map (·.ref)).Nodup) (ref : Reference) :
    es.length ≤ (es.filter (·.ref ≠ ref)).length + 1 := by
  have hone : es.countP (·.ref = ref) ≤ 1 := by
    have hcount := List.nodup_iff_count_le_one.mp hnodup ref
    rw [List.count, List.countP_map] at hcount
    refine Nat.le_trans (Nat.le_of_eq (List.countP_congr fun e _ => ?_)) hcount
    simp
  have hsplit := List.length_eq_countP_add_countP (fun e : Event => e.ref = ref) (l := es)
  simp only [decide_eq_true_eq] at hsplit
  rw [← List.countP_eq_length_filter]
  show es.length ≤ es.countP (fun e => decide ¬e.ref = ref) + 1
  omega

/-- **The buffer is cut back** as far as it can be. -/
def IsCut (b : ReplayBuffer) : Prop :=
  b.size ≤ b.capacity ∨ b.events.filter Event.isRefresh = []

theorem isCut_shrink (b : ReplayBuffer) : b.shrink.IsCut := by
  have hlength := length_keepNewest (b.size - b.capacity) b.events
  by_cases henough : b.size - b.capacity ≤ b.events.countP Event.isRefresh
  · refine Or.inl ?_
    show (keepNewest (b.size - b.capacity) b.events).length ≤ b.capacity
    rw [size] at *
    omega
  · refine Or.inr ?_
    show (keepNewest (b.size - b.capacity) b.events).filter Event.isRefresh = []
    rw [filter_keepNewest, List.drop_eq_nil_iff, ← List.countP_eq_length_filter]
    omega

/-! ### What a buffer keeps -/

/-- **The buffer keeps the newest** of some events. -/
structure KeepsNewest (b : ReplayBuffer) (heard : List Event) : Prop where
  /-- It has all the newest events that are not evicted, in order of arrival. -/
  kept : b.events = (Event.newest heard).filter (·.ref ∉ b.evicted)
  /-- Those that are evicted are the oldest refreshes. -/
  oldest : b.evicted <+: ((Event.newest heard).filter Event.isRefresh).map (·.ref)
  /-- None is evicted unless the buffer is full. -/
  full : b.evicted = [] ∨ b.capacity ≤ b.size

namespace KeepsNewest

variable {b : ReplayBuffer} {heard : List Event}

theorem clear (b : ReplayBuffer) : b.clear.KeepsNewest [] :=
  ⟨rfl, List.prefix_refl [], Or.inl rfl⟩

theorem nodup_refs (h : b.KeepsNewest heard) : b.refs.Nodup := by
  rw [refs, h.kept]
  exact (Event.nodup_newest heard).sublist (List.filter_sublist.map _)

theorem nodup_evicted (h : b.KeepsNewest heard) : b.evicted.Nodup :=
  ((Event.nodup_newest heard).sublist (List.filter_sublist.map _)).sublist h.oldest.sublist

/-- **The refreshes that are left** are those behind the evicted ones. -/
theorem refreshes_eq (h : b.KeepsNewest heard) :
    ((Event.newest heard).filter Event.isRefresh).map (·.ref) =
      b.evicted ++ (b.events.filter Event.isRefresh).map (·.ref) := by
  have hnodup : (((Event.newest heard).filter Event.isRefresh).map (·.ref)).Nodup :=
    (Event.nodup_newest heard).sublist (List.filter_sublist.map _)
  obtain ⟨rest, hrest⟩ := h.oldest
  rw [← hrest] at hnodup
  -- what is left is what is not among the evicted, and that is what stands behind them
  have hleft : (b.events.filter Event.isRefresh).map (·.ref) =
      (b.evicted ++ rest).filter (· ∉ b.evicted) := by
    rw [hrest, h.kept, List.filter_comm, List.filter_map]
    rfl
  have hfront : b.evicted.filter (· ∉ b.evicted) = [] := by
    simp
  have hback : rest.filter (· ∉ b.evicted) = rest := by
    refine List.filter_eq_self.mpr fun ref hmem => decide_eq_true fun hin => ?_
    exact (List.disjoint_of_nodup_append hnodup) hin hmem
  rw [hleft, List.filter_append, hfront, hback, List.nil_append, hrest]

theorem not_mem_evicted (h : b.KeepsNewest heard) {ref : Reference} (hmem : ref ∈ b.refs) :
    ref ∉ b.evicted := by
  obtain ⟨e, he, rfl⟩ := List.mem_map.mp hmem
  rw [h.kept] at he
  simpa using (List.mem_filter.mp he).2

/-- A reference is evicted or buffered if it is that of a newest event, and never both. -/
theorem perm_refs (h : b.KeepsNewest heard) :
    (b.refs ++ b.evicted).Perm ((Event.newest heard).map (·.ref)) := by
  have hnodup : (b.refs ++ b.evicted).Nodup :=
    List.nodup_append'.mpr ⟨h.nodup_refs, h.nodup_evicted, fun _ => h.not_mem_evicted⟩
  refine (List.perm_ext_iff_of_nodup hnodup (Event.nodup_newest heard)).mpr fun ref => ?_
  rw [List.mem_append]
  constructor
  · rintro (hmem | hmem)
    · obtain ⟨e, he, rfl⟩ := List.mem_map.mp hmem
      rw [h.kept] at he
      exact List.mem_map.mpr ⟨e, (List.mem_filter.mp he).1, rfl⟩
    · exact (List.filter_sublist.map _).subset (h.oldest.subset hmem)
  · intro hmem
    obtain ⟨e, he, rfl⟩ := List.mem_map.mp hmem
    by_cases hin : e.ref ∈ b.evicted
    · exact Or.inr hin
    · refine Or.inl (List.mem_map.mpr ⟨e, ?_, rfl⟩)
      rw [h.kept]
      exact List.mem_filter.mpr ⟨he, decide_eq_true hin⟩

theorem size_add (h : b.KeepsNewest heard) :
    b.size + b.evicted.length = (Event.newest heard).length := by
  have hlength := h.perm_refs.length_eq
  rwa [List.length_append, refs, List.length_map, List.length_map] at hlength

/-! ### Events arrive -/

/-- **Giving way** takes the oldest refreshes that are left. -/
theorem shrink (h : b.KeepsNewest heard) : b.shrink.KeepsNewest heard := by
  refine ⟨?_, ?_, ?_⟩
  · have hkept : ∀ gone : List Reference, b.events.filter (·.ref ∉ gone) =
        (Event.newest heard).filter (·.ref ∉ b.evicted ++ gone) := by
      intro gone
      rw [h.kept, List.filter_filter]
      refine List.filter_congr fun e _ => ?_
      simp [Bool.and_comm]
    show keepNewest _ b.events = _
    rw [keepNewest_eq_filter h.nodup_refs, hkept]
    rfl
  · show b.evicted ++ oldestRefreshes _ b.events <+: _
    rw [h.refreshes_eq, oldestRefreshes_eq_take, List.prefix_append_right_inj]
    exact List.take_prefix _ _
  · have hlength := length_keepNewest (b.size - b.capacity) b.events
    by_cases hover : b.size ≤ b.capacity
    · rw [shrink_of_le hover]
      exact h.full
    · refine Or.inr ?_
      show b.capacity ≤ (keepNewest (b.size - b.capacity) b.events).length
      rw [size] at *
      omega

/-- **A well-formed event** takes the place of what was there for its reference, be it buffered or
evicted. -/
theorem replace (h : b.KeepsNewest heard) {e : Event} (hwell : e.isMalformed = false) :
    KeepsNewest { b with events := b.events.filter (·.ref ≠ e.ref) ++ [e]
                         evicted := b.evicted.filter (· ≠ e.ref) } (heard ++ [e]) := by
  have hnewest : Event.newest (heard ++ [e]) =
      (Event.newest heard).filter (·.ref ≠ e.ref) ++ [e] := by
    rw [Event.newest_concat, hwell, if_neg (by simp)]
  refine ⟨?_, ?_, ?_⟩
  · have hlast : [e].filter (·.ref ∉ b.evicted.filter (· ≠ e.ref)) = [e] := by simp
    show b.events.filter (·.ref ≠ e.ref) ++ [e] = _
    rw [hnewest, List.filter_append, hlast, h.kept, List.filter_filter, List.filter_filter]
    refine congrArg (· ++ [e]) (List.filter_congr fun e' _ => ?_)
    by_cases href : e'.ref = e.ref <;> simp [href]
  · have hold : ((Event.newest heard).filter (·.ref ≠ e.ref)).filter Event.isRefresh =
        ((Event.newest heard).filter Event.isRefresh).filter (·.ref ≠ e.ref) :=
      List.filter_comm _ _ _
    have hprefix := h.oldest.filter (· ≠ e.ref)
    rw [List.filter_map] at hprefix
    show b.evicted.filter (· ≠ e.ref) <+: _
    rw [hnewest, List.filter_append, List.map_append, hold]
    exact hprefix.trans (List.prefix_append _ _)
  · rcases h.full with hnone | hfull
    · refine Or.inl ?_
      show b.evicted.filter (· ≠ e.ref) = []
      rw [hnone, List.filter_nil]
    -- at most one event gives its place to the new one
    · refine Or.inr ?_
      have hone := length_le_filter_ne h.nodup_refs e.ref
      show b.capacity ≤ (b.events.filter (·.ref ≠ e.ref) ++ [e]).length
      rw [List.length_append, List.length_singleton]
      exact Nat.le_trans hfull hone

theorem push (h : b.KeepsNewest heard) (e : Event) : (b.push e).KeepsNewest (heard ++ [e]) := by
  rw [ReplayBuffer.push]
  by_cases hmal : e.isMalformed
  · have hsame : Event.newest (heard ++ [e]) = Event.newest heard := by
      rw [Event.newest_concat, if_pos hmal]
    rw [Event.isMalformed] at hmal
    rw [if_pos hmal]
    exact ⟨by rw [hsame]; exact h.kept, by rw [hsame]; exact h.oldest, h.full⟩
  · have hwell : e.isMalformed = false := by simpa using hmal
    rw [Event.isMalformed] at hmal
    rw [if_neg hmal]
    exact (h.replace hwell).shrink

theorem extend (h : b.KeepsNewest heard) (batch : List Event) :
    (b.extend batch).KeepsNewest (heard ++ batch) := by
  induction batch generalizing b heard with
  | nil =>
    rw [List.append_nil]
    exact h
  | cons e batch ih =>
    have hnext := ih (h.push e)
    rw [List.append_assoc, List.singleton_append] at hnext
    exact hnext

/-! ### How much is kept -/

/-- **The size of a buffer that is cut back.** -/
theorem size_eq (h : b.KeepsNewest heard) (hcut : b.IsCut) :
    b.size = max (min b.capacity (Event.mentioned heard).length)
      ((Event.mentioned heard).countP fun ref =>
        (Event.latest? heard ref).any Event.isRemoval) := by
  rw [← Event.length_newest, ← Event.countP_newest]
  have hkinds := Event.length_newest_eq_add heard
  have hsize := h.size_add
  have hrefreshes : (Event.newest heard).countP Event.isRefresh =
      b.evicted.length + (b.events.filter Event.isRefresh).length := by
    have hlength := congrArg List.length h.refreshes_eq
    rwa [List.length_append, List.length_map, List.length_map,
      ← List.countP_eq_length_filter] at hlength
  -- a buffer with evicted references is full, and one with more than that has removals only
  rcases hcut with hroom | hremovals <;> rcases h.full with hnone | hfull
  · rw [hnone, List.length_nil] at hsize hrefreshes
    omega
  · omega
  · rw [hnone, List.length_nil] at hsize hrefreshes
    rw [hremovals, List.length_nil] at hrefreshes
    omega
  · rw [hremovals, List.length_nil] at hrefreshes
    omega

end KeepsNewest

/-! ### Runs of a buffer -/

/-- What can be done with a buffer. -/
inductive Act where
  /-- An event arrives. -/
  | push (e : Event)
  /-- A batch of events arrives. -/
  | extend (batch : List Event)
  /-- The contents are dropped. -/
  | clear
  /-- The contents are taken out. -/
  | take

/-- The buffer after an act. -/
def act (b : ReplayBuffer) : Act → ReplayBuffer
  | .push e => b.push e
  | .extend batch => b.extend batch
  | .clear => b.clear
  | .take => b.take.2

/-- The buffer after some acts. -/
def run (b : ReplayBuffer) (acts : List Act) : ReplayBuffer :=
  acts.foldl act b

/-- What has been heard since a buffer was last emptied, by one act more. -/
def Act.heard (before : List Event) : Act → List Event
  | .push e => before ++ [e]
  | .extend batch => before ++ batch
  | .clear => []
  | .take => []

/-- **What has been heard** since the buffer was last emptied. -/
def heardOf (acts : List Act) : List Event :=
  acts.foldl Act.heard []

theorem run_concat (b : ReplayBuffer) (acts : List Act) (a : Act) :
    b.run (acts ++ [a]) = (b.run acts).act a :=
  List.foldl_concat ..

theorem heardOf_concat (acts : List Act) (a : Act) :
    heardOf (acts ++ [a]) = a.heard (heardOf acts) :=
  List.foldl_concat ..

/-- **What a buffer contains** after it has heard some events. -/
structure Contents (b : ReplayBuffer) (heard : List Event) : Prop where
  /-- A reference that a well-formed event was about is buffered or evicted, and no other is. -/
  covered : ∀ ref, (Event.latest? heard ref).isSome = true ↔ ref ∈ b.refs ∨ ref ∈ b.evicted
  /-- None is both. -/
  apart : ∀ ref ∈ b.evicted, ref ∉ b.refs
  /-- No reference is buffered twice, and none is evicted twice. -/
  once : b.refs.Nodup ∧ b.evicted.Nodup
  /-- What is buffered is the latest event about its reference. -/
  latest : ∀ e ∈ b.events, Event.latest? heard e.ref = some e
  /-- A removal is buffered. -/
  removals : ∀ ref e, Event.latest? heard ref = some e → e.isRemoval = true → e ∈ b.events
  /-- The buffered events stand in order of arrival. -/
  inOrder : b.events.Pairwise fun e e' => Event.arrival heard e.ref < Event.arrival heard e'.ref
  /-- What was evicted is older than every buffered refresh. -/
  older : ∀ ref ∈ b.evicted, ∀ e ∈ b.events, e.isRefresh = true →
    Event.arrival heard ref < Event.arrival heard e.ref
  /-- As many references are buffered as the buffer is meant to hold, or as have a removal, if these
  are more. -/
  size : b.size = max (min b.capacity (Event.mentioned heard).length)
    ((Event.mentioned heard).countP fun ref => (Event.latest? heard ref).any Event.isRemoval)

section

variable {b : ReplayBuffer} {heard : List Event}

/-- **What a buffer contains**, seen from what it keeps. -/
theorem KeepsNewest.contents (h : b.KeepsNewest heard) (hcut : b.IsCut) : b.Contents heard := by
  have hkept : ∀ e ∈ b.events, e ∈ Event.newest heard := by
    intro e he
    rw [h.kept] at he
    exact (List.mem_filter.mp he).1
  refine ⟨fun ref => ?_, fun ref hgone hmem => h.not_mem_evicted hmem hgone,
    ⟨h.nodup_refs, h.nodup_evicted⟩, fun e he => Event.mem_newest.mp (hkept e he), ?_, ?_, ?_,
    h.size_eq hcut⟩
  · rw [← Event.mem_refs_newest, ← h.perm_refs.mem_iff, List.mem_append]
  · intro ref e hlatest hremoval
    obtain ⟨rfl, -⟩ := Event.concerns_iff.mp (Event.concerns_of_latest? hlatest)
    rw [h.kept]
    refine List.mem_filter.mpr ⟨Event.mem_newest.mpr hlatest, decide_eq_true fun hgone => ?_⟩
    -- an evicted reference has a refresh for its latest event
    obtain ⟨e', he', href⟩ := List.mem_map.mp (h.oldest.subset hgone)
    obtain ⟨hmem, hrefresh⟩ := List.mem_filter.mp he'
    have hsame := Event.mem_newest.mp hmem
    rw [href, hlatest] at hsame
    obtain rfl := Option.some.inj hsame
    have hwell := Event.isMalformed_of_isRefresh hrefresh
    rw [Event.isRefresh_eq_not_isRemoval hwell, hremoval] at hrefresh
    cases hrefresh
  · rw [h.kept]
    exact (Event.pairwise_newest heard).filter _
  -- all refreshes stand in order of arrival, and those that were evicted in front
  · have hordered : (((Event.newest heard).filter Event.isRefresh).map (·.ref)).Pairwise
        fun ref ref' => Event.arrival heard ref < Event.arrival heard ref' :=
      List.pairwise_map.mpr ((Event.pairwise_newest heard).filter _)
    rw [h.refreshes_eq, List.pairwise_append] at hordered
    intro ref hgone e he hrefresh
    refine hordered.2.2 ref hgone e.ref (List.mem_map.mpr ⟨e, ?_, rfl⟩)
    exact List.mem_filter.mpr ⟨he, hrefresh⟩

theorem IsCut.push (h : b.IsCut) (e : Event) : (b.push e).IsCut := by
  rw [ReplayBuffer.push]
  split
  · exact h
  · exact isCut_shrink _

theorem IsCut.extend (h : b.IsCut) (batch : List Event) : (b.extend batch).IsCut := by
  induction batch generalizing b with
  | nil => exact h
  | cons e batch ih => exact ih (h.push e)

end

/-- One act more, and the buffer still keeps the newest of what it has heard. -/
theorem KeepsNewest.act {b : ReplayBuffer} {heard : List Event} (h : b.KeepsNewest heard)
    (hcut : b.IsCut) (a : Act) : (b.act a).KeepsNewest (a.heard heard) ∧ (b.act a).IsCut := by
  cases a with
  | push e => exact ⟨h.push e, hcut.push e⟩
  | extend batch => exact ⟨h.extend batch, hcut.extend batch⟩
  | clear => exact ⟨KeepsNewest.clear b, Or.inl (Nat.zero_le _)⟩
  | take => exact ⟨KeepsNewest.clear b, Or.inl (Nat.zero_le _)⟩

theorem capacity_act (b : ReplayBuffer) (a : Act) : (b.act a).capacity = b.capacity := by
  cases a with
  | push e => exact capacity_extend b [e]
  | extend batch => exact capacity_extend b batch
  | clear => rfl
  | take => rfl

/-- **What is true of every run of a buffer.** -/
theorem keepsNewest_run (capacity : Nat) (acts : List Act) :
    (run { capacity } acts).KeepsNewest (heardOf acts) ∧ (run { capacity } acts).IsCut ∧
      (run { capacity } acts).capacity = capacity := by
  induction acts using List.reverseRecOn with
  | nil => exact ⟨KeepsNewest.clear { capacity }, Or.inl (Nat.zero_le _), rfl⟩
  | append_singleton acts a ih =>
    obtain ⟨hkeeps, hcut, hcapacity⟩ := ih
    rw [run_concat, heardOf_concat]
    obtain ⟨hkeeps', hcut'⟩ := hkeeps.act hcut a
    exact ⟨hkeeps', hcut', (capacity_act _ a).trans hcapacity⟩

end LiveSearch.ReplayBuffer
