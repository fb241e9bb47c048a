import LiveSearch.Proofs.Corpus.Changes

/-!
# The corpora that can occur

A corpus **grows** from the empty one by whole changes, by being closed and opened again, and by
subscriptions (`Corpus.Grown`). No change is under way in it, so it is steady, and the index
reflects the store without exception (`Corpus.Grown.steady`).

Carrying out a change without interruption is nothing but taking its steps until none is left
(`Corpus.advance_done`), so what holds of every step holds of whole changes.
-/

namespace LiveSearch

/-- What can be done to a corpus. -/
inductive Edit where
  /-- Items are added, or replace the versions that are there. -/
  | add (items : List Item)
  /-- One item is added, or replaces the version that is there. -/
  | update (item : Item)
  /-- Items move to a state. -/
  | setState (refs : List Reference) (state : State)
  /-- Items are deleted. -/
  | delete (refs : List Reference)

/-- The change that an edit begins. -/
def Edit.change : Edit → Change
  | .add items => .addItems items
  | .update item => .addItems [item]
  | .setState refs state => .setState refs state
  | .delete refs => .delete refs

namespace Corpus

variable {c : Corpus}

/-! ### Beginning a change -/

/-- Where nothing is left to do the index reflects the store, whatever has come of it. -/
theorem steady_done {result : Except Failure Nat} (h : c.Steady (.done result))
    (result' : Except Failure Nat) : c.Steady (.done result') :=
  ⟨h.faithful, h.pending, h.underway⟩

/-- **A change begins** in a steady corpus, and there is nothing to announce yet. -/
theorem Steady.edit {result : Except Failure Nat} (h : c.Steady (.done result)) (e : Edit) :
    c.Steady e.change ∧ e.change.unannounced = [] := by
  obtain ⟨hfaithful, hpending, hunder⟩ := h
  have hreflects : Store.Reflects c.index.documents c.store := hunder
  cases e with
  | add items =>
    exact ⟨⟨hfaithful, hpending, Change.underway_addItems hreflects items⟩,
      Change.unannounced_addItems items⟩
  | update item =>
    exact ⟨⟨hfaithful, hpending, Change.underway_addItems hreflects [item]⟩,
      Change.unannounced_addItems [item]⟩
  | setState refs state => exact ⟨⟨hfaithful, hpending, hreflects⟩, rfl⟩
  | delete refs =>
    rw [Edit.change, Change.delete]
    split
    · exact ⟨⟨hfaithful, hpending, hreflects⟩, rfl⟩
    · exact ⟨⟨hfaithful, hpending, c.store, [], rfl, hreflects, c.store.tells_nil,
        fun _ _ => rfl⟩, rfl⟩

/-! ### Carrying a change out -/

theorem advance_succ (n : Nat) (c : Corpus) (change : Change) :
    advance (n + 1) c change = advance n (change.step c).1 (change.step c).2 := rfl

/-- Every step brings a change nearer to its end. -/
theorem remaining_step (c : Corpus) (change : Change) :
    (change.step c).2.remaining ≤ change.remaining - 1 := by
  cases change with
  | lookUp refs state found =>
    cases refs with
    | nil =>
      simp only [Change.step, Change.addItems]
      split <;> simp [Change.remaining]
    | cons ref rest =>
      simp only [Change.step]
      split <;> simp [Change.remaining]
  | remove rest refs removed => cases rest <;> simp [Change.step, Change.remaining]
  | write items => simp [Change.step, Change.remaining]
  | index operations events count => simp [Change.step, Change.remaining]
  | announce events count => simp [Change.step, Change.remaining]
  | done result => simp [Change.step, Change.remaining]

/-- **A change is carried out in as many steps as remain**: then nothing is left to do. -/
theorem advance_done (n : Nat) (c : Corpus) (change : Change) (h : change.remaining ≤ n) :
    ∃ result, (advance n c change).2 = .done result := by
  induction n generalizing c change with
  | zero =>
    cases change with
    | done result => exact ⟨result, rfl⟩
    | _ => simp [Change.remaining] at h
  | succ n ih =>
    rw [advance_succ]
    refine ih _ _ ?_
    have := remaining_step c change
    omega

theorem Steady.advance {change : Change} (h : c.Steady change) (n : Nat) :
    (advance n c change).1.Steady (advance n c change).2 := by
  induction n generalizing c change with
  | zero => exact h
  | succ n ih =>
    rw [advance_succ]
    exact ih h.step

/-- The bus keeps its own numbers through every step. -/
theorem numbered_step (h : c.bus.Numbered) (change : Change) :
    (change.step c).1.bus.Numbered := by
  cases change with
  | lookUp refs state found =>
    rw [(Change.lookUp_step c refs state found).1]
    exact h
  | remove rest refs removed => cases rest <;> exact h
  | announce events count => exact h.publish .news events
  | write items => exact h
  | index operations events count => exact h
  | done result => exact h

theorem numbered_advance (h : c.bus.Numbered) (n : Nat) (change : Change) :
    (advance n c change).1.bus.Numbered := by
  induction n generalizing c change with
  | zero => exact h
  | succ n ih =>
    rw [advance_succ]
    exact ih (numbered_step h change) _

/-! ### Growing -/

/-- **The corpora that can occur.** -/
inductive Grown : Corpus → Prop where
  /-- A corpus is empty at first. -/
  | empty : Grown {}
  /-- A change is carried out. -/
  | edit {c : Corpus} (e : Edit) : Grown c → Grown (c.perform e.change).1
  /-- The corpus is closed and opened again. -/
  | reopen {c : Corpus} : Grown c → Grown c.reopen
  /-- Somebody subscribes. -/
  | subscribe {c : Corpus} (entity : EntityKind) :
    Grown c → Grown { c with bus := (c.bus.subscribe entity).1 }

/-- **A corpus that has grown is steady**, and its bus keeps its own numbers. -/
theorem Grown.steady (h : c.Grown) : c.Steady (.done (.ok 0)) ∧ c.bus.Numbered := by
  induction h with
  | empty => exact ⟨⟨Store.faithful_empty, rfl, Store.reflects_nil _⟩, Bus.numbered_empty⟩
  | @edit c e _ ih =>
    obtain ⟨hsteady, hnumbered⟩ := ih
    have hedit := (hsteady.edit e).1
    refine ⟨?_, numbered_advance hnumbered _ _⟩
    -- the change has come to its end, so nothing of it is under way any more
    obtain ⟨result, hdone⟩ := advance_done e.change.remaining c e.change le_rfl
    have hafter := hedit.advance e.change.remaining
    rw [hdone] at hafter
    exact steady_done hafter _
  | reopen _ ih =>
    obtain ⟨⟨hfaithful, -, hunder⟩, -⟩ := ih
    exact ⟨⟨hfaithful, rfl, hunder⟩, Bus.numbered_empty⟩
  | subscribe entity _ ih =>
    obtain ⟨⟨hfaithful, hpending, hunder⟩, hnumbered⟩ := ih
    exact ⟨⟨hfaithful, hpending, hunder⟩, hnumbered.subscribe entity⟩

end Corpus

end LiveSearch
