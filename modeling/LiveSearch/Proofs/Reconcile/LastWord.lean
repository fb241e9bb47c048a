import LiveSearch.Mutation

/-!
# The last word on a reference

Of several events for one reference only the last well-formed one counts. This file names it:
`Event.lastWord?` is what the last well-formed event of a list asks of the hit for a reference, and
`none` where the list has no well-formed event for it.

The one fact that everything else rests on is how last words compose
(`Event.lastWord?_append`): what comes later has the last word, and where it is silent the earlier
events keep it.
-/

namespace LiveSearch.Event

/-- What the event asks of the hit for a reference. -/
def asks? (ref : Reference) (e : Event) : Option Action :=
  if e.ref = ref then e.action? else none

/-- **The last word** of a list of events on a reference. -/
def lastWord? (events : List Event) (ref : Reference) : Option Action :=
  (events.filterMap (asks? ref)).getLast?

@[simp] theorem lastWord?_nil (ref : Reference) : lastWord? [] ref = none := rfl

/-- What comes later has the last word, unless it is silent. -/
@[simp] theorem lastWord?_append (xs ys : List Event) (ref : Reference) :
    lastWord? (xs ++ ys) ref = (lastWord? ys ref).or (lastWord? xs ref) := by
  rw [lastWord?, List.filterMap_append, List.getLast?_append]
  rfl

theorem lastWord?_singleton (e : Event) (ref : Reference) :
    lastWord? [e] ref = asks? ref e := by
  cases h : asks? ref e <;> simp [lastWord?, h]

theorem lastWord?_cons (e : Event) (events : List Event) (ref : Reference) :
    lastWord? (e :: events) ref = (lastWord? events ref).or (asks? ref e) := by
  rw [← lastWord?_singleton e ref, ← lastWord?_append]
  rfl

/-- A list whose events for a reference are all silent has no last word on it. -/
theorem lastWord?_eq_none {events : List Event} {ref : Reference}
    (h : ∀ e ∈ events, e.ref ≠ ref) : lastWord? events ref = none := by
  have hnil : events.filterMap (asks? ref) = [] :=
    List.filterMap_eq_nil_iff.mpr fun e he => if_neg (h e he)
  rw [lastWord?, hnil]
  rfl

/-- The last word is the word of some event for the reference. -/
theorem exists_of_lastWord? {events : List Event} {ref : Reference} {a : Action}
    (h : lastWord? events ref = some a) : ∃ e ∈ events, e.ref = ref ∧ e.action? = some a := by
  have hmem : a ∈ events.filterMap (asks? ref) := List.mem_of_getLast? h
  obtain ⟨e, he, hask⟩ := List.mem_filterMap.mp hmem
  by_cases href : e.ref = ref
  · exact ⟨e, he, href, by rwa [asks?, if_pos href] at hask⟩
  · rw [asks?, if_neg href] at hask
    exact absurd hask (by simp)

/-! ### Refreshes -/

/-- A refresh shows a visible version of the very item that the event speaks of. -/
theorem ref_of_refresh {e : Event} {item : Item} (h : e.action? = some (.refresh item)) :
    item.ref = e.ref ∧ item.isVisible = true := by
  rw [action?] at h
  split at h
  · simp at h
  · next snapshot _ _ =>
    split at h
    · next href =>
      by_cases hv : snapshot.isVisible
      · simp only [hv, if_true, Option.some.injEq, Action.refresh.injEq] at h
        exact h ▸ ⟨href, hv⟩
      · simp [hv] at h
    · simp at h
  · simp at h

/-- The last word on a reference, if it is a refresh, shows a visible item under that reference. -/
theorem ref_of_lastWord?_refresh {events : List Event} {ref : Reference} {item : Item}
    (h : lastWord? events ref = some (.refresh item)) :
    item.ref = ref ∧ item.isVisible = true := by
  obtain ⟨e, -, href, hact⟩ := exists_of_lastWord? h
  obtain ⟨hitem, hv⟩ := ref_of_refresh hact
  exact ⟨hitem.trans href, hv⟩

/-! ### The events that a corpus announces -/

@[simp] theorem action?_deleted (ref : Reference) : (deleted ref).action? = some .remove := rfl

@[simp] theorem ref_deleted (ref : Reference) : (deleted ref).ref = ref := rfl

@[simp] theorem ref_updated (item : Item) : (updated item).ref = item.ref := rfl

@[simp] theorem action?_updated (item : Item) :
    (updated item).action? = some (if item.isVisible then .refresh item else .remove) := by
  simp [action?, updated]

end LiveSearch.Event
