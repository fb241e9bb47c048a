import LiveSearch.Proofs.Corpus.Writes

/-!
# The last write decides

Whatever else has been written: under a reference there is what the last write about it has left
there (`Write.get_allToStore`). The other views of a corpus follow the same rule, each in the order
in which the writes come to it; `foldl_of_last` is what they share.
-/

namespace LiveSearch

/-- **What the last entry says.** Let some entries be worked off one after the other, where those of
one kind decide what is seen of the state, and the others leave it as it was. Then the last entry of
the kind decides what is seen in the end. -/
theorem foldl_of_last {σ α β : Type} {f : σ → α → σ} (seen : σ → β) (p : α → Prop)
    [DecidablePred p] (said : α → β) {l : List α}
    (h : ∀ s, ∀ x ∈ l, seen (f s x) = if p x then said x else seen s) (s : σ) :
    seen (l.foldl f s) = ((l.reverse.find? (p ·)).map said).getD (seen s) := by
  induction l using List.reverseRecOn with
  | nil => rfl
  | append_singleton l x ih =>
    rw [List.foldl_append, List.foldl_cons, List.foldl_nil, h _ x (by simp), List.reverse_concat,
      List.find?_cons]
    by_cases hx : p x
    · simp [hx]
    · simp only [hx, if_false, decide_false]
      exact ih fun s y hy => h s y (List.mem_append_left _ hy)

namespace Write

variable {s : Store}

/-- The reference that a write is about. -/
def ref : Write → Reference
  | .put item => item.ref
  | .remove ref => ref

/-- **What a write leaves** under its reference. -/
def left : Write → Option Item
  | .put item => some item
  | .remove _ => none

/-- The last write about a reference. -/
def last? (writes : List Write) (ref : Reference) : Option Write :=
  writes.reverse.find? (·.ref = ref)

/-- **What some writes leave** under a reference. -/
def leave (writes : List Write) (ref : Reference) : Option Item :=
  (last? writes ref).bind left

theorem last?_concat (writes : List Write) (w : Write) (ref : Reference) :
    last? (writes ++ [w]) ref = if w.ref = ref then some w else last? writes ref := by
  rw [last?, List.reverse_concat, List.find?_cons, last?]
  by_cases h : w.ref = ref <;> simp [h]

theorem last?_append (xs ys : List Write) (ref : Reference) :
    last? (xs ++ ys) ref = (last? ys ref).or (last? xs ref) := by
  rw [last?, List.reverse_append, List.find?_append, last?, last?]

/-- There is a last write about a reference if there is one at all. -/
theorem isSome_last? (writes : List Write) (ref : Reference) :
    (last? writes ref).isSome = writes.any (·.ref = ref) := by
  rw [last?, List.isSome_find?, List.any_reverse]

theorem leave_concat (writes : List Write) (w : Write) (ref : Reference) :
    leave (writes ++ [w]) ref = if w.ref = ref then w.left else leave writes ref := by
  rw [leave, last?_concat, leave]
  split <;> rfl

theorem get_toStore (s : Store) (w : Write) (ref : Reference) :
    (w.toStore s).get ref = if w.ref = ref then .ok w.left else s.get ref := by
  cases w with
  | put item => exact Store.get_put s item ref
  | remove ref' => exact Store.get_remove s ref' ref

/-- **A store gives back what the last write has left.** -/
theorem get_allToStore (s : Store) (writes : List Write) (ref : Reference) :
    (allToStore s writes).get ref =
      ((last? writes ref).map fun w => .ok w.left).getD (s.get ref) :=
  foldl_of_last (·.get ref) (·.ref = ref) (fun w => .ok w.left)
    (fun s w _ => get_toStore s w ref) s

theorem contains_toStore (s : Store) (w : Write) (ref : Reference) :
    (w.toStore s).contains ref = if w.ref = ref then w.left.isSome else s.contains ref := by
  cases w with
  | put item =>
    rw [Bool.eq_iff_iff, toStore, Store.contains_put]
    by_cases h : item.ref = ref <;> simp [Write.ref, left, h]
  | remove ref' =>
    rw [Bool.eq_iff_iff, toStore, Store.contains_remove]
    by_cases h : ref' = ref <;> simp [Write.ref, left, h]

/-- **A store holds a reference** if the last write has left something there. -/
theorem contains_allToStore (s : Store) (writes : List Write) (ref : Reference) :
    (allToStore s writes).contains ref =
      ((last? writes ref).map fun w => w.left.isSome).getD (s.contains ref) :=
  foldl_of_last (·.contains ref) (·.ref = ref) (·.left.isSome)
    (fun s w _ => contains_toStore s w ref) s

theorem allToStore_append (s : Store) (xs ys : List Write) :
    allToStore s (xs ++ ys) = allToStore (allToStore s xs) ys :=
  List.foldl_append

theorem allNews_append (s : Store) (xs ys : List Write) :
    allNews s (xs ++ ys) = allNews s xs ++ allNews (allToStore s xs) ys := by
  induction xs generalizing s with
  | nil => rfl
  | cons w xs ih =>
    rw [List.cons_append, allNews, ih, allNews, List.append_assoc]
    rfl

/-- Writes keep the references of a store in order. -/
theorem ascending_allToStore (h : s.items.Ascending) (writes : List Write) :
    (allToStore s writes).items.Ascending := by
  induction writes generalizing s with
  | nil => exact h
  | cons w rest ih =>
    rw [allToStore_cons]
    cases w with
    | put item => exact ih (h.insert _ _)
    | remove ref => exact ih (h.erase _)

end Write

/-- Writes keep a store faithful. -/
theorem Store.Faithful.allToStore {s : Store} (h : s.Faithful) (writes : List Write) :
    (Write.allToStore s writes).Faithful := by
  induction writes generalizing s with
  | nil => exact h
  | cons w rest ih =>
    rw [Write.allToStore_cons]
    cases w with
    | put item => exact ih (h.put item)
    | remove ref => exact ih (h.remove ref)

/-- A store that is in step is faithful. -/
theorem InStep.faithful {contents : Reference → Option Item} {s : Store}
    {documents : List Document} (h : InStep contents s documents) : s.Faithful := by
  constructor
  · intro ref item hr
    rw [Store.resolve, h.get] at hr
    cases hcontents : contents ref with
    | none =>
      rw [hcontents] at hr
      cases hr
    | some item' =>
      rw [hcontents] at hr
      obtain rfl := Except.ok.inj hr
      exact h.keyed ref _ hcontents
  · intro ref e hr
    rw [Store.resolve, h.get] at hr
    cases hcontents : contents ref with
    | none =>
      rw [hcontents] at hr
      cases hr
      rfl
    | some item' =>
      rw [hcontents] at hr
      cases hr

end LiveSearch
