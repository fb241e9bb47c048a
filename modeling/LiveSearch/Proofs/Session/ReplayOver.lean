import LiveSearch.Proofs.Reconcile.Buffer
import LiveSearch.Proofs.Reconcile.Rechecking
import LiveSearch.Proofs.Reconcile.Tally
import LiveSearch.Session.Delivery

/-!
# Replaying without loss

A replay has two passes: the events that the buffer has kept are applied to the hits, and then the
items of the references that had to give way are looked up again. The lookups make up for what was
given up, provided that every reference that gave way is looked up as it was last heard of
(`Session.Lossless`). Then both passes together do to the hits, and count, what a single one over
all that was heard would (`Session.Lossless.replayOver_eq`) – so nothing depends on what had to give
way, and in which order it is looked up.

The argument is made for one hit at a time. A reference is either evicted, and then the first pass
leaves its hit alone and the second has the last word, or it is not, and then it is the other way
round.
-/

namespace LiveSearch

/-- A count whose cases split into two is the sum of the two counts. -/
theorem countP_eq_add_of_split {α : Type} {p q r : α → Bool} {l : List α}
    (h : ∀ x ∈ l, (p x).toNat = (q x).toNat + (r x).toNat) :
    l.countP p = l.countP q + l.countP r := by
  induction l with
  | nil => rfl
  | cons x l ih =>
    have hx := h x List.mem_cons_self
    have hl := ih fun y hy => h y (List.mem_cons_of_mem _ hy)
    simp only [List.countP_cons]
    cases hp : p x <;> cases hq : q x <;> cases hr : r x <;> simp [hp, hq, hr] at hx ⊢ <;> omega

namespace Session

/-- The hits that the first pass leaves. -/
def firstPass (b : ReplayBuffer) (rs : ResultSet) : ResultSet :=
  (reconcile b.events rs).1

/-- What the second pass does to the hits that are left. -/
def secondPass (resolver : Resolver) (order : List Reference) (rs : ResultSet) :
    ResultSet × Outcome :=
  reconcile (recheckEvents order resolver rs) rs

/-- **A replay that makes up for what was given up**: of a buffer that holds what was heard, with
the evicted references in some order, by lookups that show each of them as it was last heard of. -/
structure Lossless (b : ReplayBuffer) (heard : List Event) (order : List Reference)
    (resolver : Resolver) : Prop where
  /-- The buffer holds what was heard. -/
  holds : b.Holds heard
  /-- The evicted references are looked up again. -/
  evicted : ∀ ref, ref ∈ order ↔ ref ∈ b.evicted
  /-- Their lookups repeat what was heard of them. -/
  repeats : ∀ ref ∈ order, ∀ item,
    Event.lastWord? heard ref = some (.refresh item) → resolver ref = .ok item

namespace Lossless

variable {b : ReplayBuffer} {heard : List Event} {order : List Reference} {resolver : Resolver}
  {rs : ResultSet}

/-- What is known of an evicted reference: the buffer is silent on it, and its lookup says what was
last heard of it. -/
theorem of_mem (h : Lossless b heard order resolver) {ref : Reference} (hmem : ref ∈ order) :
    Event.lastWord? b.events ref = none ∧
      ∃ item, resolver ref = .ok item ∧ Event.lastWord? heard ref = some (.refresh item) := by
  obtain ⟨hsilent, item, hword⟩ := h.holds.evicted ref ((h.evicted ref).mp hmem)
  exact ⟨hsilent, item, h.repeats ref hmem item hword, hword⟩

/-- On a reference that is not evicted the buffer has the last word. -/
theorem of_not_mem (h : Lossless b heard order resolver) {ref : Reference} (hnot : ref ∉ order) :
    Event.lastWord? b.events ref = Event.lastWord? heard ref :=
  h.holds.kept ref (mt (h.evicted ref).mpr hnot)

theorem keyedOn (h : Lossless b heard order resolver) : resolver.KeyedOn order := by
  intro ref hmem item hfound
  obtain ⟨-, item', hfound', hword⟩ := h.of_mem hmem
  obtain rfl : item' = item := Except.ok.inj (hfound'.symm.trans hfound)
  exact (Event.ref_of_lastWord?_refresh hword).1

/-- **What the second pass says** of a hit that is left: what was heard of it if it is evicted, and
otherwise nothing. -/
theorem lastWord?_second (h : Lossless b heard order resolver) {ref : Reference}
    (hin : ref ∈ rs.refs) :
    Event.lastWord? (recheckEvents order resolver rs) ref =
      if ref ∈ order then Event.lastWord? heard ref else none := by
  rw [lastWord?_recheckEvents h.keyedOn hin]
  split
  · next hmem =>
    obtain ⟨-, item, hfound, hword⟩ := h.of_mem hmem
    obtain ⟨-, hv⟩ := Event.ref_of_lastWord?_refresh hword
    rw [hword, Resolver.event?, hfound, Option.bind_some, Event.action?_updated, if_pos hv]
  · rfl

/-! ### What becomes of the hits -/

/-- **One hit through both passes.** -/
theorem after_bind_after (h : Lossless b heard order resolver) {x : Hit} (hx : x ∈ rs.hits) :
    (x.after b.events).bind (Hit.after (recheckEvents order resolver (firstPass b rs))) =
      x.after heard := by
  have hleft : ∀ y, x.after b.events = some y → y.ref ∈ (firstPass b rs).refs :=
    fun y hy => ResultSet.mem_refs.mpr ⟨y, mem_reconcile.mpr ⟨x, hx, hy⟩, rfl⟩
  by_cases hmem : x.ref ∈ order
  · have hfirst := Hit.after_of_none (h.of_mem hmem).1
    have hword := h.lastWord?_second (hleft x hfirst)
    rw [if_pos hmem] at hword
    rw [hfirst, Option.bind_some, Hit.after, hword, ← Hit.after]
  · have hfirst : x.after b.events = x.after heard := by
      rw [Hit.after, h.of_not_mem hmem, ← Hit.after]
    cases hy : x.after heard with
    | none => rw [hfirst, hy, Option.bind_none]
    | some y =>
      have hword := h.lastWord?_second (hleft y (hfirst.trans hy))
      rw [Hit.ref_of_after hy, if_neg hmem, ← Hit.ref_of_after hy] at hword
      rw [hfirst, hy, Option.bind_some, Hit.after_of_none hword]

/-- **Both passes do to the hits what one pass over all that was heard does.** -/
theorem results_replayOver (h : Lossless b heard order resolver) (rs : ResultSet) :
    (replayOver resolver { events := b.events, evicted := order } rs).1 =
      (reconcile heard rs).1 := by
  have hfirst : firstPass b rs = { rs with hits := rs.hits.filterMap (Hit.after b.events) } :=
    reconcile_fst b.events rs
  have hsecond : (secondPass resolver order (firstPass b rs)).1 = { rs with
      hits := (rs.hits.filterMap (Hit.after b.events)).filterMap
        (Hit.after (recheckEvents order resolver (firstPass b rs))) } := by
    rw [secondPass, reconcile_fst, hfirst]
  show (secondPass resolver order (firstPass b rs)).1 = _
  rw [hsecond, reconcile_fst, List.filterMap_filterMap]
  exact congrArg (fun hits => { rs with hits })
    (List.filterMap_congr fun x hx => h.after_bind_after hx)

/-! ### What is counted -/

/-- The first pass removes what all that was heard removes. -/
theorem removed_first (h : Lossless b heard order resolver) (rs : ResultSet) :
    (reconcile b.events rs).2.removed = (reconcile heard rs).2.removed := by
  rw [removed_reconcile, removed_reconcile]
  refine List.countP_congr fun x _ => ?_
  rw [Event.removes_iff, Event.removes_iff]
  by_cases hmem : x.ref ∈ order
  · obtain ⟨hsilent, item, -, hword⟩ := h.of_mem hmem
    rw [hsilent, hword]
    simp
  · rw [h.of_not_mem hmem]

/-- The second pass removes nothing. -/
theorem removed_second (h : Lossless b heard order resolver) (rs : ResultSet) :
    (secondPass resolver order rs).2.removed = 0 := by
  rw [secondPass, removed_reconcile, List.countP_eq_zero]
  intro x hx
  rw [Event.removes_iff, h.lastWord?_second (ResultSet.mem_refs.mpr ⟨x, hx, rfl⟩)]
  split
  · next hmem =>
    obtain ⟨-, item, -, hword⟩ := h.of_mem hmem
    rw [hword]
    simp
  · simp

/-- The second pass refreshes the hits that are evicted. -/
theorem refreshed_second (h : Lossless b heard order resolver) (hnodup : rs.refs.Nodup) :
    (secondPass resolver order (firstPass b rs)).2.refreshed =
      rs.hits.countP fun x => decide (x.ref ∈ order) := by
  have hfirst : (firstPass b rs).hits = rs.hits.filterMap (Hit.after b.events) := by
    rw [firstPass, reconcile_fst]
  have hleft : (firstPass b rs).refs.Nodup := nodup_refs_reconcile hnodup
  -- the count over the hits that are left is carried back to those that there were
  rw [secondPass, refreshed_reconcile hleft, hfirst, List.countP_filterMap]
  refine List.countP_congr fun x hx => ?_
  cases hy : x.after b.events with
  | none =>
    have hnot : x.ref ∉ order := by
      intro hmem
      rw [Hit.after_of_none (h.of_mem hmem).1] at hy
      cases hy
    simp [hnot]
  | some y =>
    have hin : y.ref ∈ (firstPass b rs).refs :=
      ResultSet.mem_refs.mpr ⟨y, mem_reconcile.mpr ⟨x, hx, hy⟩, rfl⟩
    have hword := h.lastWord?_second hin
    rw [Option.map_some, Option.getD_some, Event.refreshes_iff, hword, decide_eq_true_iff,
      Hit.ref_of_after hy]
    constructor
    · rintro ⟨item, hsome⟩
      by_contra hnot
      rw [if_neg hnot] at hsome
      cases hsome
    · intro hmem
      obtain ⟨-, item, -, hheard⟩ := h.of_mem hmem
      exact ⟨item, by rw [if_pos hmem]; exact hheard⟩

/-- Every hit that is refreshed at all is refreshed in one pass: in the second if it is evicted, and
otherwise in the first. -/
theorem refreshed_eq_add (h : Lossless b heard order resolver) (hnodup : rs.refs.Nodup) :
    (reconcile heard rs).2.refreshed = (reconcile b.events rs).2.refreshed +
      (secondPass resolver order (firstPass b rs)).2.refreshed := by
  rw [h.refreshed_second hnodup, refreshed_reconcile hnodup, refreshed_reconcile hnodup]
  refine countP_eq_add_of_split fun x _ => ?_
  by_cases hmem : x.ref ∈ order
  · obtain ⟨hsilent, item, -, hword⟩ := h.of_mem hmem
    simp [hmem, Event.refreshes, hsilent, hword, Plan.refreshOf?]
  · simp [hmem, Event.refreshes, h.of_not_mem hmem]

/-- **A replay without loss**: both passes together are one pass over all that was heard, in what
they do and in what they count. -/
theorem replayOver_eq (h : Lossless b heard order resolver) (hnodup : rs.refs.Nodup) :
    replayOver resolver { events := b.events, evicted := order } rs = reconcile heard rs := by
  refine Prod.ext (h.results_replayOver rs) ?_
  show Outcome.add (reconcile b.events rs).2 (secondPass resolver order (firstPass b rs)).2 = _
  rw [Outcome.add, h.removed_second, h.removed_first, ← h.refreshed_eq_add hnodup, Nat.add_zero]

end Lossless

end Session

end LiveSearch
