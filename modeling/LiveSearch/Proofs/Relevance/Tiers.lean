import LiveSearch.Relevance

/-!
# The tiers of scores

The thresholds of some scores come from the **best score**. Scores that are no number are passed
over, and the search for the best begins at zero, so it is the largest of zero and the scores that
are numbers (`Thresholds.bestOf_spec`). Where all scores stand below zero the best score is therefore
not the largest of them (`Thresholds.IsLargest`) but zero, and all tiers are the lowest
(`Thresholds.classify_eq_low`).

Whatever the thresholds are, and although each of them is rounded, tiers follow the scores: **a
number that is no smaller has a tier that is no lower** (`Thresholds.rank_classify_le`).
-/

namespace LiveSearch

namespace Single

variable {x y z : Single}

/-! ### The numeric order -/

theorem lt_iff : x.lt y = true ↔ x.isNaN = false ∧ y.isNaN = false ∧ x.position < y.position := by
  simp only [lt, Bool.and_eq_true, Bool.not_eq_true', decide_eq_true_eq, and_assoc]

/-- Between numbers the numeric order is that of their positions. -/
theorem not_lt_iff (hx : x.isNaN = false) (hy : y.isNaN = false) :
    x.lt y = false ↔ y.position ≤ x.position := by
  rw [← Bool.not_eq_true, lt_iff, hx, hy, ← Int.not_lt]
  simp only [true_and]

/-- The total order of all patterns refines the order of positions, which takes the two zeros for
one number. -/
theorem position_le_of_rank_le (hle : x.rank ≤ y.rank) : x.position ≤ y.position := by
  -- only the ranks of the negative patterns differ from their positions: they are one below
  simp only [rank, position] at hle ⊢
  cases hx : x.isNegative <;> cases hy : y.isNegative <;>
    simp only [hx, hy, Bool.false_eq_true, if_false, if_true] at hle ⊢ <;> omega

/-- **The larger of two sides**, of which the first is a number, is a number; it is one of the two,
and neither is larger. -/
theorem max_spec (hx : x.isNaN = false) (y : Single) :
    (x.max y).isNaN = false ∧ (x.max y = x ∨ x.max y = y) ∧
      x.position ≤ (x.max y).position ∧ (x.max y).lt y = false := by
  rw [max, if_neg (by simp [hx])]
  by_cases hy : y.isNaN = true
  · rw [if_pos hy]
    exact ⟨hx, Or.inl rfl, Int.le_refl _, by simp [lt, hy]⟩
  · have hnumber : y.isNaN = false := by simpa using hy
    rw [if_neg hy]
    by_cases hlt : x.lt y = true
    · rw [if_pos hlt]
      obtain ⟨-, -, hposition⟩ := lt_iff.mp hlt
      exact ⟨hnumber, Or.inr rfl, Int.le_of_lt hposition,
        (not_lt_iff hnumber hnumber).mpr (Int.le_refl _)⟩
    · rw [if_neg hlt]
      exact ⟨hx, Or.inl rfl, Int.le_refl _, by simpa using hlt⟩

end Single

namespace Thresholds

/-! ### The best score -/

/-- The best of a number and some scores. -/
theorem foldl_max_spec (scores : List Single) {first : Single} (hfirst : first.isNaN = false) :
    (scores.foldl Single.max first).isNaN = false ∧
      (scores.foldl Single.max first = first ∨ scores.foldl Single.max first ∈ scores) ∧
      first.position ≤ (scores.foldl Single.max first).position ∧
      ∀ x ∈ scores, (scores.foldl Single.max first).lt x = false := by
  induction scores generalizing first with
  | nil => exact ⟨hfirst, Or.inl rfl, Int.le_refl _, fun x hx => by cases hx⟩
  | cons score scores ih =>
    obtain ⟨hnumber, hone, hle, hnot⟩ := Single.max_spec hfirst score
    obtain ⟨hbest, hmem, hrest, hall⟩ := ih hnumber
    rw [List.foldl_cons]
    refine ⟨hbest, ?_, Int.le_trans hle hrest, fun x hx => ?_⟩
    · rcases hmem with heq | hin
      · rw [heq]
        rcases hone with h | h <;> rw [h]
        · exact Or.inl rfl
        · exact Or.inr List.mem_cons_self
      · exact Or.inr (List.mem_cons_of_mem _ hin)
    · rcases List.mem_cons.mp hx with rfl | hx
      · by_cases hx' : x.isNaN = true
        · simp [Single.lt, hx']
        · have hx' : x.isNaN = false := by simpa using hx'
          rw [Single.not_lt_iff hnumber hx'] at hnot
          exact (Single.not_lt_iff hbest hx').mpr (Int.le_trans hnot hrest)
      · exact hall x hx

/-- **The best score** is a number: zero, or one of the scores. Neither zero nor any of the scores
is larger. -/
theorem bestOf_spec (scores : List Single) :
    (bestOf scores).isNaN = false ∧ (bestOf scores = Single.zero ∨ bestOf scores ∈ scores) ∧
      (bestOf scores).lt Single.zero = false ∧ ∀ x ∈ scores, (bestOf scores).lt x = false := by
  have hzero : Single.zero.isNaN = false := by decide
  obtain ⟨hnumber, hone, hle, hall⟩ := foldl_max_spec scores hzero
  exact ⟨hnumber, hone, (Single.not_lt_iff hnumber hzero).mpr hle, hall⟩

/-- **The largest of some scores**: a number among them that none of them exceeds. -/
structure IsLargest (scores : List Single) (largest : Single) : Prop where
  number : largest.isNaN = false
  mem : largest ∈ scores
  most : ∀ x ∈ scores, largest.lt x = false

/-- Unless none of the scores is a number, one of them is the largest. -/
theorem exists_isLargest {scores : List Single} {x : Single} (hx : x ∈ scores)
    (hnumber : x.isNaN = false) : ∃ largest, IsLargest scores largest := by
  obtain ⟨hbest, hone, -, hall⟩ := foldl_max_spec scores hnumber
  refine ⟨_, hbest, ?_, hall⟩
  rcases hone with heq | hmem
  · rw [heq]
    exact hx
  · exact hmem

end Thresholds

/-! ### Tiers -/

/-- The tiers from the lowest to the highest. -/
def Tier.rank : Tier → Nat
  | .low => 0
  | .medium => 1
  | .high => 2

namespace Thresholds

variable {t : Thresholds} {x y : Single}

/-- What a number exceeds, a number that is no smaller exceeds as well. -/
theorem exceeds_of_le {threshold : Single} (hy : y.isNaN = false)
    (hle : x.position ≤ y.position) (hlt : threshold.lt x = true) : threshold.lt y = true := by
  obtain ⟨hthreshold, -, hposition⟩ := Single.lt_iff.mp hlt
  exact Single.lt_iff.mpr ⟨hthreshold, hy, Int.lt_of_lt_of_le hposition hle⟩

/-- **Tiers follow the scores**: a number that is no smaller has a tier that is no lower. -/
theorem rank_classify_le (t : Thresholds) (hy : y.isNaN = false)
    (hle : x.position ≤ y.position) : (t.classify x).rank ≤ (t.classify y).rank := by
  rw [classify, classify]
  by_cases hhigh : t.high.lt x = true
  · refine Nat.le_of_eq ?_
    rw [if_pos hhigh, if_pos (exceeds_of_le hy hle hhigh)]
  rw [if_neg hhigh]
  by_cases hmedium : t.medium.lt x = true
  · rw [if_pos hmedium, if_pos (exceeds_of_le hy hle hmedium)]
    split <;> decide
  · rw [if_neg hmedium]
    exact Nat.zero_le _

/-! ### No score above zero -/

/-- Where no score is above zero, zero is the best. -/
theorem bestOf_eq_zero {scores : List Single} (hnone : ∀ x ∈ scores, Single.zero.lt x = false) :
    bestOf scores = Single.zero := by
  induction scores with
  | nil => rfl
  | cons score scores ih =>
    have hfirst : Single.zero.max score = Single.zero := by
      rw [Single.max, if_neg (by decide), hnone score List.mem_cons_self]
      exact ite_self _
    rw [bestOf, List.foldl_cons, hfirst]
    exact ih fun x hx => hnone x (List.mem_cons_of_mem _ hx)

/-- **Where no score is above zero, all are of the lowest tier**, whichever of them is the
largest. -/
theorem classify_eq_low {scores : List Single} (hnone : ∀ x ∈ scores, Single.zero.lt x = false)
    (hx : x ∈ scores) : (ofScores scores).classify x = .low := by
  have hthresholds : ofBest Single.zero = ⟨Single.zero, Single.zero, Single.zero⟩ := by
    decide +kernel
  rw [ofScores, bestOf_eq_zero hnone, hthresholds, classify]
  simp only [hnone x hx, Bool.false_eq_true, if_false]

end Thresholds

end LiveSearch
