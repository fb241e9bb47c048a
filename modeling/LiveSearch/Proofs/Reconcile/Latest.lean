import LiveSearch.Proofs.Reconcile.LastWord
import LiveSearch.Reconcile.Replay
import Mathlib.Data.List.Induction

/-!
# The latest event for a reference

`Event.lastWord?` tells what the last well-formed event for a reference asks for. Where the event
itself matters – a buffer keeps events, and a batch is judged by them – it is
`Event.latest?`: the last of the events that **concern** a reference, which are the well-formed ones
about it (`Event.latest?_eq_some_iff`). The last word is what this event asks for
(`Event.lastWord?_eq_bind`).

A well-formed event is a removal or a refresh. The three kinds of events are told apart by what they
ask for; what they look like is said by `Event.isMalformed_iff`, `Event.isRemoval_iff` and
`Event.isRefresh_iff`.
-/

namespace LiveSearch.Event

/-! ### Kinds of events -/

/-- Does the event ask for nothing? -/
def isMalformed (e : Event) : Bool :=
  e.action?.isNone

/-- Does a well-formed event ask to forget its item? -/
def isRemoval (e : Event) : Bool :=
  e.action? = some .remove

/-- **A malformed event** is of an unknown kind, or an update without a snapshot of its own item. -/
theorem isMalformed_iff {e : Event} : e.isMalformed = true ↔
    e.kind = .unknown ∨ e.kind = .updated ∧ ∀ v, e.snapshot = some v → v.ref ≠ e.ref := by
  obtain ⟨ref, kind, snapshot⟩ := e
  cases kind <;> cases snapshot <;> simp [isMalformed, action?]

/-- **A removal** is a deletion, or an update to a version that is not visible. -/
theorem isRemoval_iff {e : Event} : e.isRemoval = true ↔
    e.kind = .deleted ∨
      e.kind = .updated ∧ ∃ v, e.snapshot = some v ∧ v.ref = e.ref ∧ v.isVisible = false := by
  obtain ⟨ref, kind, snapshot⟩ := e
  cases kind <;> cases snapshot <;> simp [isRemoval, action?]

/-- **A refresh** is an update to a visible version. -/
theorem isRefresh_iff {e : Event} : e.isRefresh = true ↔
    e.kind = .updated ∧ ∃ v, e.snapshot = some v ∧ v.ref = e.ref ∧ v.isVisible = true := by
  obtain ⟨ref, kind, snapshot⟩ := e
  cases kind with
  | updated =>
    cases snapshot with
    | none => simp [isRefresh, action?]
    | some v => by_cases href : v.ref = ref <;> by_cases hv : v.isVisible <;>
        simp [isRefresh, action?, href, hv]
  | deleted => simp [isRefresh, action?]
  | unknown => simp [isRefresh, action?]

/-- A refresh shows its own snapshot. -/
theorem action?_of_isRefresh {e : Event} (h : e.isRefresh = true) :
    ∃ v, e.snapshot = some v ∧ v.ref = e.ref ∧ e.action? = some (.refresh v) := by
  obtain ⟨hkind, v, hsnap, href, hv⟩ := isRefresh_iff.mp h
  exact ⟨v, hsnap, href, by simp [action?, hkind, hsnap, href, hv]⟩

/-- A well-formed event is a removal or a refresh, and not both. -/
theorem isRefresh_eq_not_isRemoval {e : Event} (h : e.isMalformed = false) :
    e.isRefresh = !e.isRemoval := by
  rw [isMalformed] at h
  rw [isRefresh, isRemoval]
  cases hact : e.action? with
  | none =>
    rw [hact] at h
    cases h
  | some a => cases a <;> simp

theorem isMalformed_of_isRefresh {e : Event} (h : e.isRefresh = true) : e.isMalformed = false := by
  obtain ⟨v, -, -, hact⟩ := action?_of_isRefresh h
  rw [isMalformed, hact]
  rfl

/-! ### The latest event -/

/-- Is it a well-formed event about the reference? -/
def concerns (ref : Reference) (e : Event) : Bool :=
  e.ref = ref && !e.isMalformed

theorem concerns_iff {ref : Reference} {e : Event} :
    e.concerns ref = true ↔ e.ref = ref ∧ e.isMalformed = false := by
  simp [concerns]

/-- **The latest event**: the last well-formed event of a list about a reference. -/
def latest? (events : List Event) (ref : Reference) : Option Event :=
  (events.filter (concerns ref)).getLast?

@[simp] theorem latest?_nil (ref : Reference) : latest? [] ref = none := rfl

theorem latest?_append (xs ys : List Event) (ref : Reference) :
    latest? (xs ++ ys) ref = (latest? ys ref).or (latest? xs ref) := by
  rw [latest?, List.filter_append, List.getLast?_append]
  rfl

/-- One more event is the latest about its reference, if it is well-formed. -/
theorem latest?_concat (events : List Event) (e : Event) (ref : Reference) :
    latest? (events ++ [e]) ref =
      if e.concerns ref then some e else latest? events ref := by
  rw [latest?_append]
  by_cases h : e.concerns ref <;> simp [latest?, h]

/-- **The latest event about a reference** concerns it, and none of those behind it does. -/
theorem latest?_eq_some_iff {events : List Event} {ref : Reference} {e : Event} :
    latest? events ref = some e ↔ ∃ earlier later, events = earlier ++ e :: later ∧
      e.concerns ref = true ∧ ∀ e' ∈ later, e'.concerns ref = false := by
  rw [latest?, List.getLast?_eq_head?_reverse, ← List.filter_reverse, List.head?_filter,
    List.find?_eq_some_iff_append]
  constructor
  · rintro ⟨hconcerns, later, earlier, heq, hnone⟩
    refine ⟨earlier.reverse, later.reverse, ?_, hconcerns, fun e' he' => ?_⟩
    · simpa using congrArg List.reverse heq
    · simpa using hnone e' (List.mem_reverse.mp he')
  · rintro ⟨earlier, later, rfl, hconcerns, hnone⟩
    refine ⟨hconcerns, later.reverse, earlier.reverse, by simp, fun e' he' => ?_⟩
    simpa using hnone e' (List.mem_reverse.mp he')

theorem concerns_of_latest? {events : List Event} {ref : Reference} {e : Event}
    (h : latest? events ref = some e) : e.concerns ref = true :=
  (List.mem_filter.mp (List.mem_of_getLast? h)).2

theorem latest?_isSome_iff {events : List Event} {ref : Reference} :
    (latest? events ref).isSome = true ↔ ∃ e ∈ events, e.concerns ref = true := by
  rw [latest?, Option.isSome_iff_ne_none, ne_eq, List.getLast?_eq_none_iff,
    List.filter_eq_nil_iff]
  simp

/-- **The last word** is what the latest event asks for. -/
theorem lastWord?_eq_bind (events : List Event) (ref : Reference) :
    lastWord? events ref = (latest? events ref).bind action? := by
  induction events using List.reverseRecOn with
  | nil => rfl
  | append_singleton events e ih =>
    rw [lastWord?_append, lastWord?_singleton, latest?_concat, ih, asks?]
    by_cases href : e.ref = ref
    · cases hact : e.action? <;> simp [concerns, isMalformed, href, hact]
    · simp [concerns, href]

end LiveSearch.Event
