import LiveSearch.Proofs.Sorting.Order
import LiveSearch.ResultSet

/-!
# What sorting comes to

To sort hits under an order is to **arrange** them (`SortOrder.Arranges`): the hits stay the same,
none stands behind one that belongs behind it, and of those between which the order does not decide
each stands where it stood relative to the others. The last of these is said of the whole list at
once: the hits that compare equal to a given one are the same list before and after.

**There is one way only to arrange hits** (`SortOrder.Arranges.unique`), so what is said here does
not depend on how the sorting is done. Any sort that is stable and that asks for nothing but
comparisons, of which we know that they are consistent, gives these very lists.
-/

namespace LiveSearch

namespace SortOrder

variable {order : SortOrder} {a b c : Hit} {hits sorted sorted' : List Hit}

/-! ### The comparison -/

theorem le_iff : order.le a b = true ↔ order.compare a b ≠ .gt :=
  decide_eq_true_iff

/-- **Each outcome of the comparison is transitive.** -/
theorem compare_trans {outcome : Ordering} (hab : order.compare a b = outcome)
    (hbc : order.compare b c = outcome) : order.compare a c = outcome := by
  cases outcome with
  | lt => exact Std.TransCmp.lt_trans hab hbc
  | eq => exact Std.TransCmp.eq_trans hab hbc
  | gt => exact Std.TransCmp.gt_trans hab hbc

/-- Hits that compare equal may stand either way. -/
theorem le_of_eq (h : order.compare a b = .eq) : order.le a b = true := by
  rw [le_iff, h]
  decide

/-- Where neither of two hits has to stand behind the other they compare equal. -/
theorem eq_of_le (hab : order.le a b = true) (hba : order.le b a = true) :
    order.compare a b = .eq := by
  have hswap : order.compare b a = (order.compare a b).swap := Std.OrientedCmp.eq_swap
  rw [le_iff] at hab hba
  cases h : order.compare a b with
  | lt => simp [hswap, h] at hba
  | eq => rfl
  | gt => exact absurd h hab

/-! ### Hits that compare equal -/

/-- The hits that compare equal to a given one, in their places. -/
def equals (order : SortOrder) (h : Hit) (hits : List Hit) : List Hit :=
  hits.filter (order.compare h · = .eq)

theorem equals_cons_of_eq (h : order.compare a b = .eq) (hits : List Hit) :
    order.equals a (b :: hits) = b :: order.equals a hits :=
  List.filter_cons_of_pos (decide_eq_true h)

theorem equals_cons_of_ne (h : order.compare a b ≠ .eq) (hits : List Hit) :
    order.equals a (b :: hits) = order.equals a hits :=
  List.filter_cons_of_neg (by simpa using h)

/-- **The hits are arranged**: the same hits, in order, and those that compare equal in their old
places relative to each other. -/
structure Arranges (order : SortOrder) (hits sorted : List Hit) : Prop where
  /-- They are the same hits. -/
  perm : sorted.Perm hits
  /-- None of them stands behind a hit that it belongs in front of. -/
  ascending : sorted.Pairwise fun a b => order.compare a b ≠ .gt
  /-- Those that compare equal to any hit are the same list. -/
  stable : ∀ h, order.equals h sorted = order.equals h hits

/-- Hits that compare equal to one hit may stand in any order. -/
theorem pairwise_equals (order : SortOrder) (h : Hit) (hits : List Hit) :
    (order.equals h hits).Pairwise fun a b => order.le a b = true := by
  refine List.pairwise_of_forall_mem_list fun a ha b hb => ?_
  have hha : order.compare h a = .eq := of_decide_eq_true (List.mem_filter.mp ha).2
  have hhb : order.compare h b = .eq := of_decide_eq_true (List.mem_filter.mp hb).2
  exact le_of_eq (Std.TransCmp.eq_trans (Std.OrientedCmp.eq_comm.mp hha) hhb)

/-- **Sorting arranges.** -/
theorem arranges_sort (order : SortOrder) (hits : List Hit) :
    order.Arranges hits (order.sort hits) := by
  have hperm : (order.sort hits).Perm hits := List.mergeSort_perm hits order.le
  refine ⟨hperm, (order.pairwise_sort hits).imp le_iff.mp, fun h => ?_⟩
  -- the hits that compare equal are in order as they stand, so sorting leaves them a sublist
  have hsublist : (order.equals h hits).Sublist (order.sort hits) :=
    List.sublist_mergeSort order.le_trans order.le_total (order.pairwise_equals h hits)
      List.filter_sublist
  have hfiltered : (order.equals h hits).Sublist (order.equals h (order.sort hits)) := by
    have hown : (order.equals h hits).filter (order.compare h · = .eq) = order.equals h hits := by
      rw [equals, List.filter_filter]
      simp only [Bool.and_self]
    rw [← hown]
    exact hsublist.filter _
  exact (hfiltered.eq_of_length (hperm.filter _).length_eq.symm).symm

namespace Arranges

/-- What stands first of arranged hits stands first of all that are arranged from the same. -/
theorem head_eq {rest rest' : List Hit} (h : order.Arranges hits (a :: rest))
    (h' : order.Arranges hits (b :: rest')) : a = b := by
  have hle : ∀ {x y : Hit} {xs ys : List Hit}, order.Arranges hits (x :: xs) →
      order.Arranges hits (y :: ys) → order.le x y = true := by
    intro x y xs ys hx hy
    rcases List.mem_cons.mp ((hx.perm.trans hy.perm.symm).mem_iff.mpr List.mem_cons_self)
      with rfl | hmem
    · exact le_of_eq Std.ReflCmp.compare_self
    · exact le_iff.mpr (List.rel_of_pairwise_cons hx.ascending hmem)
  have hequal : order.compare a b = .eq := eq_of_le (hle h h') (hle h' h)
  have hsame := (h.stable a).trans (h'.stable a).symm
  rw [equals_cons_of_eq Std.ReflCmp.compare_self, equals_cons_of_eq hequal] at hsame
  exact (List.cons.inj hsame).1

/-- **There is one way only to arrange hits.** -/
theorem unique (h : order.Arranges hits sorted) (h' : order.Arranges hits sorted') :
    sorted = sorted' := by
  induction sorted generalizing hits sorted' with
  | nil =>
    have hnone : sorted' = [] := (h'.perm.trans h.perm.symm).eq_nil
    exact hnone.symm
  | cons a rest ih =>
    cases sorted' with
    | nil => exact absurd (h.perm.trans h'.perm.symm).eq_nil (List.cons_ne_nil a rest)
    | cons b rest' =>
      obtain rfl := h.head_eq h'
      -- what is left on either side is arranged from what is left on this side
      have hrest : order.Arranges rest rest := ⟨.refl _, h.ascending.of_cons, fun _ => rfl⟩
      have hrest' : order.Arranges rest rest' := by
        refine ⟨(h'.perm.trans h.perm.symm).cons_inv, h'.ascending.of_cons, fun x => ?_⟩
        have hsame := (h'.stable x).trans (h.stable x).symm
        by_cases hx : order.compare x a = .eq
        · rw [equals_cons_of_eq hx, equals_cons_of_eq hx] at hsame
          exact (List.cons.inj hsame).2
        · rwa [equals_cons_of_ne hx, equals_cons_of_ne hx] at hsame
      rw [ih hrest hrest']

end Arranges

/-- **To arrange hits is to sort them.** -/
theorem arranges_iff : order.Arranges hits sorted ↔ sorted = order.sort hits :=
  ⟨fun h => h.unique (order.arranges_sort hits), fun h => h ▸ order.arranges_sort hits⟩

/-- Sorted hits are sorted already. -/
theorem sort_sort (order : SortOrder) (hits : List Hit) :
    order.sort (order.sort hits) = order.sort hits :=
  List.mergeSort_of_pairwise (order.pairwise_sort hits)

/-- **The newest first**, in either direction: where the key is the score, a hit may stand before
one of the same score only if it is at least as new. -/
theorem recentDate_le_of_le (hkey : order.key = .score) (hle : order.le a b = true)
    (hscore : a.score.compareRank b.score = .eq) :
    b.attributes.recentDate ≤ a.attributes.recentDate := by
  have hdirected : order.directed a b = .eq := by
    have hswap : order.key.compare b a = (order.key.compare a b).swap := Std.OrientedCmp.eq_swap
    have hprimary : order.key.compare a b = .eq := by
      rw [hkey]
      exact hscore
    rw [directed, hswap, hprimary]
    split <;> rfl
  have htied : order.tied a b ≠ .gt := by
    rw [le_iff, compare_eq_compareLex, compareLex, hdirected] at hle
    exact hle
  rw [tied, if_pos hkey] at htied
  exact Nat.compare_ne_gt.mp htied

/-- **Sorting a result set.** Every order compares hits by a total preorder, whatever the bits of
their scores and the characters of their texts: a hit compares equal to itself, exchanging two hits
turns the outcome round, and every outcome is transitive. Hence sorting is what it is meant to be.
The hits are arranged, which can be done in one way only, and nothing else of the set changes;
sorting again changes nothing at all; and where the key is the score, of hits with the same score
the newest stands first, in either direction. -/
theorem resort_arranges (order : SortOrder) :
    (∀ a, order.compare a a = .eq) ∧
      (∀ a b, order.compare b a = (order.compare a b).swap) ∧
      (∀ a b c outcome, order.compare a b = outcome → order.compare b c = outcome →
        order.compare a c = outcome) ∧
      (∀ a b c, order.compare a b ≠ .gt → order.compare b c ≠ .gt → order.compare a c ≠ .gt) ∧
      ∀ rs : ResultSet,
        let after := (rs.setOrder order).resort
        (∀ hits, order.Arranges rs.hits hits ↔ hits = after.hits) ∧
          after.order = order ∧ after.generation = rs.generation ∧ after.resort = after ∧
          (order.key = .score → after.hits.Pairwise fun a b =>
            a.score.compareRank b.score = .eq →
              b.attributes.recentDate ≤ a.attributes.recentDate) := by
  refine ⟨fun _ => Std.ReflCmp.compare_self, fun _ _ => Std.OrientedCmp.eq_swap,
    fun _ _ _ _ => compare_trans, fun a b c hab hbc => ?preorder, fun rs => ?sorted⟩
  case preorder =>
    exact le_iff.mp (order.le_trans a b c (le_iff.mpr hab) (le_iff.mpr hbc))
  case sorted =>
    refine ⟨fun _ => arranges_iff, rfl, rfl, ?again, fun hkey => ?newest⟩
    case again => exact congrArg (fun hits => { rs with hits, order }) (order.sort_sort rs.hits)
    case newest => exact (order.pairwise_sort rs.hits).imp (recentDate_le_of_le hkey)

end SortOrder

end LiveSearch
