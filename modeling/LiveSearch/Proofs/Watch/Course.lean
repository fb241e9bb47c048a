import LiveSearch.Proofs.Watch.Soundness

/-!
# The course of a run

What a run of moves brings to the session (`Watch.received`), and that a session only goes on along
it: the numbers of its queries and the generations of its hits never return (`Watch.le_run`).
So a number or a generation that is the same at both ends of a run was the same all along, and this
is how a run is known to hold no other query, or no other hits.

Along a run within one query everything that is received is heard (`Watch.Sound.run`).
-/

namespace LiveSearch.Watch

variable {heard : List Event} {w : Watch}

/-! ### Numbers and generations -/

theorem follows_asking (w : Watch) (conditions : List Condition) (matchAll : Bool) :
    w.session.Follows (w.asking conditions matchAll).session :=
  w.session.follows_begin

/-- **The session only goes on** in every move. -/
theorem follows_step (w : Watch) (m : Move) : w.session.Follows (w.step m).session := by
  cases m with
  | edit e =>
    rw [step]
    split <;> exact .refl _
  | write => exact .refl _
  | issue conditions matchAll =>
    rcases w.step_issue conditions matchAll with ⟨-, -, heq⟩ | ⟨-, heq⟩ <;> rw [heq]
    · exact w.follows_asking conditions matchAll
    · exact .refl _
  | clear => exact w.session.follows_clear
  | close =>
    rw [step]
    split <;> exact w.session.follows_close
  | setOrder order => exact Session.GoesOn.follows ⟨rfl, rfl, rfl, rfl, rfl⟩
  | resort => exact Session.GoesOn.follows ⟨rfl, rfl, rfl, rfl, rfl⟩
  | materialize start stop =>
    rw [step]
    cases hm : w.session.materialize w.corpus.sources.resolver start stop with
    | error e => exact .refl _
    | ok result => exact Session.follows_materialize hm
  | proceed position => exact .refl _
  | deliver position =>
    rcases w.step_deliver position with heq | ⟨e, message, -, -, heq⟩ <;> rw [heq]
    · exact .refl _
    · exact w.session.follows_handleMessage w.corpus.sources.resolver message
  | breakOff position reason =>
    rcases w.step_breakOff position reason with ⟨heq, -⟩ | ⟨e, message, -, -, heq⟩ <;> rw [heq]
    · exact .refl _
    · exact w.session.follows_handleMessage w.corpus.sources.resolver message
  | receive =>
    rw [step]
    cases w.next? with
    | none => exact .refl _
    | some next => exact w.session.follows_handleBatch next.1

/-- Numbers and generations never return along a run. -/
theorem le_run (w : Watch) (moves : List Move) :
    w.session.sequence ≤ (w.run moves).session.sequence ∧
      w.session.results.generation ≤ (w.run moves).session.results.generation := by
  induction moves generalizing w with
  | nil => exact ⟨Nat.le_refl _, Nat.le_refl _⟩
  | cons m moves ih =>
    obtain ⟨hsequence, hgeneration⟩ := ih (w.step m)
    have hstep := w.follows_step m
    exact ⟨hstep.sequence.trans hsequence, hstep.generation.trans hgeneration⟩

/-! ### What is received -/

/-- The batch that a move brings to the session. -/
def brings (w : Watch) : Move → List (List Event)
  | .receive => (w.next?.map (·.1)).toList
  | _ => []

/-- **The batches that are received** along a run. -/
def received (w : Watch) : List Move → List (List Event)
  | [] => []
  | m :: moves => w.brings m ++ (w.step m).received moves

theorem received_snoc (w : Watch) (moves : List Move) (m : Move) :
    w.received (moves ++ [m]) = w.received moves ++ (w.run moves).brings m := by
  induction moves generalizing w with
  | nil => exact List.append_nil _
  | cons m' moves ih =>
    rw [List.cons_append, received, ih, received, run_cons, List.append_assoc]

/-- In a move that begins no query all that is received is heard. -/
theorem hears_eq {m : Move} (hsame : (w.step m).session.sequence = w.session.sequence) :
    w.hears heard m = heard ++ (w.brings m).flatten := by
  cases m with
  | issue conditions matchAll =>
    rw [hears]
    rcases w.step_issue conditions matchAll with ⟨-, -, heq⟩ | ⟨hfailed, -⟩
    -- a query that begins takes the next number
    · rw [heq] at hsame
      exact absurd hsame (Nat.succ_ne_self _)
    · rw [if_neg (by simp [hfailed])]
      exact (List.append_nil _).symm
  | receive =>
    rw [hears, brings]
    cases w.next? <;> simp
  | _ => exact (List.append_nil _).symm

/-- **Within one query all that is received is heard.** -/
theorem Sound.run (h : w.Sound heard) (moves : List Move)
    (hsame : (w.run moves).session.sequence = w.session.sequence) :
    (w.run moves).Sound (heard ++ (w.received moves).flatten) := by
  induction moves generalizing w heard with
  | nil =>
    rw [received, List.flatten_nil, List.append_nil]
    exact h
  | cons m moves ih =>
    have hstep := (w.follows_step m).sequence
    have hrest := ((w.step m).le_run moves).1
    rw [run_cons] at hsame ⊢
    -- numbers only grow, so one that is the same in the end was the same all along
    have hfirst : (w.step m).session.sequence = w.session.sequence := by omega
    have hsound := h.step m
    rw [hears_eq hfirst] at hsound
    rw [received, List.flatten_append, ← List.append_assoc]
    exact ih hsound (hsame.trans hfirst.symm)

end LiveSearch.Watch
