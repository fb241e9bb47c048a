import LiveSearch.Sorting
import Mathlib.Data.List.Sort

/-!
# The comparison of hits

**Every sort order compares hits by a total preorder** (`SortOrder.le_trans`, `SortOrder.le_total`),
whatever the bits of their scores and whatever their texts. Each key is read off a hit as a whole
number or as a list of them, a direction turns the comparison round as a whole, and the date, which
decides between equal scores, comes second in a lexicographic comparison
(`SortOrder.compare_eq_compareLex`).

So sorting is what it is meant to be: the sorted hits are the same hits, in order, and where the
order allows two of them to stand as they did, they do (`SortOrder.pair_sublist_sort`).
-/

namespace LiveSearch

open Std Text

/-! ### Keys -/

/-- A comparison of what is read off. -/
theorem transCmp_on {α β : Type} (cmp : β → β → Ordering) [TransCmp cmp] (f : α → β) :
    TransCmp fun a b => cmp (f a) (f b) where
  eq_swap := OrientedCmp.eq_swap
  isLE_trans := TransCmp.isLE_trans

/-- Characters are compared by their code points, and texts of them lexicographically. -/
theorem compareChars_eq_compareLex (as bs : List Char) :
    compareChars as bs = List.compareLex (fun a b : Char => compare a.toNat b.toNat) as bs := by
  induction as generalizing bs with
  | nil => cases bs <;> rfl
  | cons a as ih =>
    cases bs with
    | nil => rfl
    | cons b bs =>
      rw [compareChars, ih, List.compareLex_cons_cons]

instance : TransCmp compareChars := by
  have hchars : TransCmp fun a b : Char => compare a.toNat b.toNat := transCmp_on compare Char.toNat
  have heq : compareChars = List.compareLex fun a b : Char => compare a.toNat b.toNat :=
    funext fun as => funext fun bs => compareChars_eq_compareLex as bs
  rw [heq]
  infer_instance

instance : TransCmp compareTexts :=
  transCmp_on compareChars fun s : String => lowerEach s.toList

instance : TransCmp Single.compareRank :=
  transCmp_on compare Single.rank

/-- **A key alone** compares hits by a total preorder. -/
instance (key : SortKey) : TransCmp key.compare := by
  cases key with
  | score => exact transCmp_on Single.compareRank Hit.score
  | title => exact transCmp_on compareTexts fun h : Hit => h.attributes.title
  | author => exact transCmp_on compareTexts fun h : Hit => h.attributes.author
  | feed => exact transCmp_on compareTexts fun h : Hit => h.attributes.feed
  | date => exact transCmp_on compare fun h : Hit => h.attributes.recentDate.toNat
  | state => exact transCmp_on compare fun h : Hit => h.state.code

namespace SortOrder

variable {order : SortOrder} {a b c : Hit} {hits : List Hit}

/-! ### Orders -/

/-- The comparison by the key, in the direction of the order. -/
def directed (order : SortOrder) (a b : Hit) : Ordering :=
  if order.ascending then order.key.compare a b else order.key.compare b a

/-- The newest first, where the key is the score. -/
def tied (order : SortOrder) (a b : Hit) : Ordering :=
  if order.key = .score then
    Ord.compare b.attributes.recentDate.toNat a.attributes.recentDate.toNat
  else .eq

/-- **An order compares by its key first**, and by the date second where the key is the score. -/
theorem compare_eq_compareLex (order : SortOrder) :
    order.compare = compareLex order.directed order.tied := by
  funext a b
  have hdirected : (if order.ascending then order.key.compare a b
      else (order.key.compare a b).swap) = order.directed a b := by
    rw [directed]
    split
    · rfl
    · exact OrientedCmp.eq_swap.symm
  rw [compare, hdirected, compareLex]
  by_cases heq : order.directed a b = .eq
  · by_cases hkey : order.key = .score
    · rw [if_pos ⟨heq, hkey⟩, heq, tied, if_pos hkey]
      rfl
    · rw [if_neg fun h => hkey h.2, heq, tied, if_neg hkey]
      rfl
  · rw [if_neg fun h => heq h.1]
    cases hdir : order.directed a b <;> first | rfl | exact absurd hdir heq

instance (order : SortOrder) : TransCmp order.directed := by
  rcases order with ⟨key, ascending | ascending⟩
  · exact @TransCmp.opposite Hit key.compare inferInstance
  · exact inferInstanceAs (TransCmp key.compare)

instance (order : SortOrder) : TransCmp order.tied := by
  by_cases hkey : order.key = .score
  · have heq : order.tied = fun a b : Hit =>
        Ord.compare b.attributes.recentDate.toNat a.attributes.recentDate.toNat :=
      funext fun a => funext fun b => if_pos hkey
    rw [heq]
    have hdates : TransCmp fun a b : Hit =>
        Ord.compare a.attributes.recentDate.toNat b.attributes.recentDate.toNat :=
      transCmp_on Ord.compare fun h : Hit => h.attributes.recentDate.toNat
    exact TransCmp.opposite
  · have heq : order.tied = fun _ _ => .eq := funext fun a => funext fun b => if_neg hkey
    rw [heq]
    exact { eq_swap := rfl, isLE_trans := fun _ _ => rfl }

/-- **Every order compares hits by a total preorder.** -/
instance (order : SortOrder) : TransCmp order.compare := by
  rw [compare_eq_compareLex]
  infer_instance

theorem le_eq_isLE (order : SortOrder) (a b : Hit) : order.le a b = (order.compare a b).isLE := by
  rw [le]
  cases order.compare a b <;> rfl

theorem le_trans (order : SortOrder) (a b c : Hit) (hab : order.le a b = true)
    (hbc : order.le b c = true) : order.le a c = true := by
  rw [le_eq_isLE] at hab hbc ⊢
  exact TransCmp.isLE_trans hab hbc

theorem le_total (order : SortOrder) (a b : Hit) : (order.le a b || order.le b a) = true := by
  have hswap : order.compare b a = (order.compare a b).swap := OrientedCmp.eq_swap
  rw [le_eq_isLE, le_eq_isLE, hswap]
  cases order.compare a b <;> rfl

/-! ### Sorting -/

/-- Sorted hits are in order. -/
theorem pairwise_sort (order : SortOrder) (hits : List Hit) :
    (order.sort hits).Pairwise fun a b => order.le a b = true :=
  List.pairwise_mergeSort order.le_trans order.le_total hits

/-- **Sorting is stable**: two hits that may stand as they do are left so. -/
theorem pair_sublist_sort (hle : order.le a b = true) (hpair : [a, b].Sublist hits) :
    [a, b].Sublist (order.sort hits) :=
  List.pair_sublist_mergeSort order.le_trans order.le_total hle hpair

/-- Under the default order no hit stands before one with a higher score. -/
theorem rank_le_of_le (hle : ({} : SortOrder).le a b = true) : b.score.rank ≤ a.score.rank := by
  rw [le_eq_isLE, compare_eq_compareLex, compareLex] at hle
  have hdirected : (Ord.compare b.score.rank a.score.rank).isLE = true := by
    have hfirst : (({} : SortOrder).directed a b).isLE = true := by
      cases hdir : ({} : SortOrder).directed a b
      · rfl
      · rfl
      · rw [hdir] at hle
        cases hle
    exact hfirst
  exact Int.isLE_compare.mp hdirected

end SortOrder

end LiveSearch
