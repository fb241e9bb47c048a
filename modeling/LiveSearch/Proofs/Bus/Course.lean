import LiveSearch.Proofs.Corpus.Bus
import Mathlib.Data.List.Induction
import Mathlib.Data.List.TakeWhile

/-!
# What is done with a bus

A bus is used by many: somebody subscribes, somebody publishes, every subscription receives at its
own pace, and subscriptions and the bus itself go away at any time. The **course** of a bus
(`Bus.course`) is what comes of such acts, one after the other, with the **history** of the acts and
their outcomes.

A history is all that an observer sees, and what a bus promises is said in its terms: the numbers
that were given (`History.given`), the subscriptions that are there (`History.live`), and what was
published and received (`History.published`, `History.received`).
-/

namespace LiveSearch

namespace Bus

/-- **What is done** with a bus and its subscriptions. -/
inductive Act where
  /-- Somebody subscribes to a kind of thing. -/
  | subscribe (entity : EntityKind)
  /-- A batch about a kind of thing is published. -/
  | publish (entity : EntityKind) (batch : List Event)
  /-- A subscription asks for its next batch. -/
  | receive (id : Nat)
  /-- A subscription goes away. -/
  | drop (id : Nat)
  /-- The bus goes away. -/
  | close
deriving DecidableEq

/-- **What comes of an act.** -/
inductive Outcome where
  /-- There is a subscription, with a number. -/
  | subscribed (id : Nat)
  /-- So many subscriptions were reached. -/
  | reached (count : Nat)
  /-- A batch was received. -/
  | received (batch : List Event)
  /-- There is no batch yet. -/
  | pending
  /-- There is no batch, and there will be none. -/
  | closed
  /-- Nothing that could be seen. -/
  | nothing
deriving DecidableEq

/-- The answer to a subscription that asks for its next batch. -/
def answer (b : Bus) (id : Nat) : Outcome :=
  match (b.receive id).2 with
  | some batch => .received batch
  | none => if b.isExhausted id then .closed else .pending

/-- **A bus after an act**, and what comes of it. When the bus is gone nobody can subscribe or
publish, and a subscription that is not there cannot ask. -/
def react (b : Bus) : Act → Bus × Outcome
  | .subscribe entity =>
    if b.isOpen then ((b.subscribe entity).1, .subscribed (b.subscribe entity).2) else (b, .nothing)
  | .publish entity batch =>
    if b.isOpen then ((b.publish entity batch).1, .reached (b.publish entity batch).2)
    else (b, .nothing)
  | .receive id => if (b.find? id).isSome then ((b.receive id).1, b.answer id) else (b, .nothing)
  | .drop id => (b.unsubscribe id, .nothing)
  | .close => (b.close, .nothing)

/-- What was done, and what came of it. -/
abbrev History := List (Act × Outcome)

/-- **A bus after some acts**, one after the other, and their history. -/
def course (b : Bus) : List Act → Bus × History
  | [] => (b, [])
  | a :: rest =>
    let (b', outcome) := b.react a
    let (b'', later) := course b' rest
    (b'', (a, outcome) :: later)

/-! ### What a history says -/

namespace History

/-- The number that was given. -/
def given? : Act × Outcome → Option Nat
  | (_, .subscribed id) => some id
  | _ => none

/-- The batch about a kind of thing that was published, unless it is empty. -/
def published? (entity : EntityKind) : Act × Outcome → Option (List Event)
  | (.publish about batch, .reached _) =>
    if about = entity ∧ batch.isEmpty = false then some batch else none
  | _ => none

/-- The batch that a subscription has received. -/
def received? (id : Nat) : Act × Outcome → Option (List Event)
  | (.receive receiver, .received batch) => if receiver = id then some batch else none
  | _ => none

/-- The subscriptions that are there after an act, with what they are about. -/
def enrol (live : List (Nat × EntityKind)) : Act × Outcome → List (Nat × EntityKind)
  | (.subscribe entity, .subscribed id) => live ++ [(id, entity)]
  | (.drop id, _) => live.filter (·.1 ≠ id)
  | _ => live

variable (h : History)

/-- The numbers that were given, in order. -/
def given : List Nat :=
  h.filterMap given?

/-- **The batches that were published** about a kind of thing, in order, without the empty ones. -/
def published (entity : EntityKind) : List (List Event) :=
  h.filterMap (published? entity)

/-- **The batches that a subscription has received**, in order. -/
def received (id : Nat) : List (List Event) :=
  h.filterMap (received? id)

/-- The history from the making of a subscription on. -/
def since (id : Nat) : History :=
  h.dropWhile (given? · ≠ some id)

/-- **The subscriptions that are there**, with what they are about. -/
def live : List (Nat × EntityKind) :=
  h.foldl enrol []

/-- Is the bus gone? -/
def isOver : Bool :=
  h.any (·.1 = .close)

variable {h : History} {e : Act × Outcome} {id : Nat} {entity : EntityKind}

/-! ### One more act -/

theorem filterMap_concat {α : Type} (f : Act × Outcome → Option α) :
    (h ++ [e]).filterMap f = h.filterMap f ++ (f e).toList := by
  rw [List.filterMap_append]
  cases hf : f e <;> simp [hf]

theorem given_concat : given (h ++ [e]) = given h ++ (given? e).toList :=
  filterMap_concat given?

theorem published_concat :
    published (h ++ [e]) entity = published h entity ++ (published? entity e).toList :=
  filterMap_concat (published? entity)

theorem received_concat : received (h ++ [e]) id = received h id ++ (received? id e).toList :=
  filterMap_concat (received? id)

theorem live_concat : live (h ++ [e]) = enrol (live h) e := by
  rw [live, List.foldl_append, List.foldl_cons, List.foldl_nil, live]

theorem isOver_concat : isOver (h ++ [e]) = (isOver h || decide (e.1 = .close)) := by
  rw [isOver, List.any_append, List.any_cons, List.any_nil, Bool.or_false, isOver]

/-- What was done since a subscription was made goes on. -/
theorem since_concat (hid : id ∈ given h) : since (h ++ [e]) id = since h id ++ [e] := by
  have hmade : (since h id).isEmpty = false := by
    rw [Bool.eq_false_iff, Ne, List.isEmpty_iff, since, List.dropWhile_eq_nil_iff]
    intro hnone
    obtain ⟨entry, hentry, hgiven⟩ := List.mem_filterMap.mp hid
    simpa [hgiven] using hnone entry hentry
  rw [since, List.dropWhile_append]
  rw [since] at hmade
  rw [hmade, if_neg Bool.false_ne_true, since]

/-- The history of a new subscription begins with its making. -/
theorem since_new (hid : id ∉ given h) (he : given? e = some id) : since (h ++ [e]) id = [e] := by
  have hnone : since h id = [] := by
    rw [since, List.dropWhile_eq_nil_iff]
    intro entry hentry
    rw [decide_eq_true_iff]
    exact fun hgiven => hid (List.mem_filterMap.mpr ⟨entry, hentry, hgiven⟩)
  rw [since] at hnone
  rw [since, List.dropWhile_append, hnone, List.isEmpty_nil, if_pos rfl,
    List.dropWhile_cons_of_neg (by simp [he])]

/-- Every subscription that is there has been made. -/
theorem sublist_given (h : History) : ((live h).map (·.1)).Sublist (given h) := by
  induction h using List.reverseRecOn with
  | nil => exact List.Sublist.slnil
  | append_singleton h e ih =>
    rw [live_concat, given_concat]
    have hmore : ((live h).map (·.1)).Sublist (given h ++ (given? e).toList) :=
      ih.trans (List.sublist_append_left _ _)
    obtain ⟨a, outcome⟩ := e
    rw [enrol.eq_def]
    split
    · next entity id heq =>
      obtain ⟨rfl, rfl⟩ := Prod.mk.inj heq
      rw [List.map_append]
      exact ih.append (List.Sublist.refl _)
    · exact (List.filter_sublist.map _).trans hmore
    · exact hmore

theorem mem_enrol (l : List (Nat × EntityKind)) (e : Act × Outcome) (id : Nat)
    (entity : EntityKind) :
    (id, entity) ∈ enrol l e ↔
      (id, entity) ∈ l ∧ e.1 ≠ .drop id ∨ e = (.subscribe entity, .subscribed id) := by
  rw [enrol.eq_def]
  split
  · next entity' id' =>
    rw [List.mem_append, List.mem_singleton]
    simp only [ne_eq, reduceCtorEq, not_false_eq_true, and_true, Prod.mk.injEq,
      Act.subscribe.injEq, Outcome.subscribed.injEq]
    rw [and_comm (a := id = id'), eq_comm (a := id), eq_comm (a := entity)]
  · next id' outcome =>
    rw [List.mem_filter]
    simp only [ne_eq, decide_not, Bool.not_eq_eq_eq_not, Bool.not_true, decide_eq_false_iff_not,
      Act.drop.injEq, Prod.mk.injEq, reduceCtorEq, false_and, or_false]
    rw [eq_comm (a := id)]
  · next hsubscribe hdrop =>
    have hstays : e.1 ≠ .drop id := fun heq => hdrop id e.2 (Prod.ext heq rfl)
    have hold : e ≠ (.subscribe entity, .subscribed id) := hsubscribe entity id
    simp only [hstays, hold, ne_eq, not_false_eq_true, and_true, or_false]

/-- **A subscription is there** if it was made and has not gone away since. -/
theorem mem_live_iff (hnodup : (given h).Nodup) :
    (id, entity) ∈ live h ↔ (.subscribe entity, .subscribed id) ∈ h ∧
      ∀ entry ∈ since h id, entry.1 ≠ .drop id := by
  have hgiven : ∀ {h : History}, (.subscribe entity, .subscribed id) ∈ h → id ∈ given h :=
    fun hmem => List.mem_filterMap.mpr ⟨_, hmem, rfl⟩
  induction h using List.reverseRecOn with
  | nil => simp [live]
  | append_singleton h e ih =>
    rw [given_concat, List.nodup_append] at hnodup
    obtain ⟨hbefore, -, hfresh⟩ := hnodup
    rw [live_concat, mem_enrol, List.mem_append, List.mem_singleton]
    by_cases hid : id ∈ given h
    · -- the number is not given again
      have hother : e ≠ (.subscribe entity, .subscribed id) := by
        rintro rfl
        exact hfresh id hid id (by simp [given?]) rfl
      have hold := ih hbefore
      rw [since_concat hid, List.forall_mem_append, List.forall_mem_singleton]
      simp only [hold, hother.symm, hother, or_false, and_assoc]
    · have hnot : (id, entity) ∉ live h := fun hin =>
        hid ((sublist_given h).subset (List.mem_map_of_mem (f := Prod.fst) hin))
      have hnever : (.subscribe entity, .subscribed id) ∉ h := fun hmem => hid (hgiven hmem)
      simp only [hnot, hnever, false_and, false_or]
      constructor
      · rintro rfl
        refine ⟨rfl, ?_⟩
        rw [since_new hid rfl]
        simp
      · exact fun h => h.1.symm

end History

end Bus

end LiveSearch
