import LiveSearch.Proofs.Relevance.Tiers
import LiveSearch.Proofs.Single.Rounding

/-!
# The tier of the best score

Two thirds of a number are less than the number, so one expects the best of some scores in the
highest tier as soon as it is above zero. The threshold is made in two steps, though, and each of
them is rounded: the best score is doubled, and the double is divided by three. In between, where
there is room, this makes no difference, as the middle between a number and the one before it is
well above two thirds of it (`Single.roundUnits_lt`). There is no room at the two ends:

* the double of a number from `2 ^ 127` on is not finite, and neither is a third of it;
* two thirds of the smallest positive number are rounded up to this number.

So **the best score is of the highest tier if it is moderate**, above the one end and below the
other, and of the middle tier otherwise (`Thresholds.classify_best`).

A largest score that is not above zero is another matter, as zero takes its place
(`Thresholds.IsLargest.bestOf_eq_max`). Two thirds and one third of such a score do not lie below it,
so its own thresholds would leave all scores in the lowest tier, and so do those of zero. The tiers
are those of the largest score all the same (`Thresholds.IsLargest.classify_eq`), except at the end
of the range, where twice the score would be negative infinity and below every score.
-/

namespace LiveSearch

namespace Single

variable {x y : Single} {m v s : Nat}

/-! ### Positive numbers -/

/-- A number above zero has no sign, and is not zero. -/
theorem of_zero_lt (h : zero.lt x = true) :
    x.isNaN = false ∧ x.isNegative = false ∧ 0 < x.magnitude := by
  obtain ⟨-, hnumber, hposition⟩ := lt_iff.mp h
  have hzero : zero.position = 0 := rfl
  rw [hzero, position] at hposition
  cases hsign : x.isNegative with
  | true =>
    rw [hsign, if_pos rfl] at hposition
    omega
  | false =>
    rw [hsign, if_neg Bool.false_ne_true] at hposition
    exact ⟨hnumber, rfl, by omega⟩

/-- Between numbers without a sign the numeric order is that of the magnitudes. -/
theorem lt_iff_magnitude (hx : x.isNaN = false) (hy : y.isNaN = false)
    (hxsign : x.isNegative = false) (hysign : y.isNegative = false) :
    x.lt y = true ↔ x.magnitude < y.magnitude := by
  rw [lt_iff, position, position, hxsign, hysign, hx, hy]
  simp

theorem magnitude_ofMagnitude (negative : Bool) (h : m ≤ infinityMagnitude) :
    (ofMagnitude negative m).magnitude = m ∧ (ofMagnitude negative m).isNegative = negative ∧
      (ofMagnitude negative m).isNaN = false := by
  have hlimit : m < signPlace := Nat.lt_of_le_of_lt h (by decide)
  have hword : signPlace + signPlace = UInt32.size := by decide
  have hbits : (ofMagnitude negative m).bits.toNat = m + if negative then signPlace else 0 := by
    refine UInt32.toNat_ofNat_of_lt' ?_
    split <;> omega
  have hmagnitude : (ofMagnitude negative m).magnitude = m := by
    rw [magnitude, hbits]
    cases negative with
    | false => exact Nat.mod_eq_of_lt hlimit
    | true => exact (Nat.add_mod_right m signPlace).trans (Nat.mod_eq_of_lt hlimit)
  refine ⟨hmagnitude, ?_, ?_⟩
  · rw [isNegative, hbits]
    cases negative with
    | false => exact decide_eq_false (Nat.not_le.mpr hlimit)
    | true => exact decide_eq_true (Nat.le_add_left signPlace m)
  · rw [isNaN, hmagnitude]
    exact decide_eq_false (Nat.not_lt.mpr h)

/-- A number without a sign is known by its magnitude. -/
theorem eq_of_magnitude_eq (hx : x.isNegative = false) (hy : y.isNegative = false)
    (h : x.magnitude = y.magnitude) : x = y := by
  have hbits : ∀ z : Single, z.isNegative = false → z.bits.toNat = z.magnitude := by
    intro z hz
    rw [isNegative, decide_eq_false_iff_not, Nat.not_le] at hz
    rw [magnitude, Nat.mod_eq_of_lt hz]
  obtain ⟨x⟩ := x
  obtain ⟨y⟩ := y
  exact congrArg Single.mk (UInt32.toNat_inj.mp ((hbits _ hx).trans (h.trans (hbits _ hy).symm)))

theorem position_ofMagnitude (negative : Bool) (h : m ≤ infinityMagnitude) :
    (ofMagnitude negative m).position = if negative then -(m : Int) else m := by
  obtain ⟨hmagnitude, hsign, -⟩ := magnitude_ofMagnitude negative h
  rw [position, hsign, hmagnitude]

/-- **With the sign of a number that is not above zero**, a smaller magnitude is no smaller
number. -/
theorem position_le_ofMagnitude (hnumber : x.isNaN = false) (hpos : x.position ≤ 0)
    (hm : m ≤ x.magnitude) : x.position ≤ (ofMagnitude x.isNegative m).position := by
  have hroom : x.magnitude ≤ infinityMagnitude := by
    rw [isNaN, decide_eq_false_iff_not, Nat.not_lt] at hnumber
    exact hnumber
  rw [position_ofMagnitude _ (Nat.le_trans hm hroom)]
  rw [position] at hpos ⊢
  cases hsign : x.isNegative <;> rw [hsign] at hpos <;>
    simp only [Bool.false_eq_true, if_false, if_true] at hpos ⊢ <;> omega

theorem unitsPerOne_pos : 0 < unitsPerOne :=
  Nat.two_pow_pos 149

theorem roundUnits_le (num den : Nat) : roundUnits num den ≤ infinityMagnitude :=
  Nat.min_le_left _ _

theorem isNaN_of_isFinite (h : x.isFinite = true) : x.isNaN = false := by
  rw [isFinite, decide_eq_true_iff] at h
  exact decide_eq_false (by omega)

theorem isInfinite_of_isFinite (h : x.isFinite = true) : x.isInfinite = false := by
  rw [isFinite, decide_eq_true_iff] at h
  exact decide_eq_false (by omega)

/-- A pattern that is not finite is no number, or infinite. -/
theorem isNaN_or_isInfinite (h : x.isFinite ≠ true) : x.isNaN = true ∨ x.isInfinite = true := by
  rw [isFinite, ne_eq, decide_eq_true_iff, Nat.not_lt] at h
  exact (Nat.lt_or_eq_of_le h).imp decide_eq_true fun heq => decide_eq_true heq.symm

/-! ### Doubling -/

/-- **The double of a magnitude**: where the patterns count the units it is doubled, and above it
moves to the next exponent. -/
def doubled (m : Nat) : Nat :=
  if m < exponentPlace then 2 * m else m + exponentPlace

/-- The double of a number has twice its units. -/
theorem IsScaled.exists_doubled (h : IsScaled m v s) :
    ∃ v' s', IsScaled (doubled m) v' s' ∧ v' * 2 ^ s' = 2 * (v * 2 ^ s) := by
  obtain ⟨hlt, hfull, heq⟩ := h
  rw [doubled]
  by_cases hsmall : v < 2 ^ 23
  · obtain rfl : s = 0 := by omega
    have hm : m < exponentPlace := by
      rw [exponentPlace] at heq ⊢
      omega
    rw [if_pos hm]
    exact ⟨2 * v, 0, ⟨by omega, Or.inl rfl, by omega⟩, Nat.mul_assoc 2 v _⟩
  · have hm : ¬m < exponentPlace := by
      rw [exponentPlace] at heq ⊢
      omega
    rw [if_neg hm]
    refine ⟨v, s + 1, ⟨hlt, Or.inr (Nat.not_lt.mp hsmall), ?_⟩, ?_⟩
    · rw [Nat.add_mul, Nat.one_mul]
      omega
    · rw [Nat.pow_succ, ← Nat.mul_assoc, Nat.mul_comm]

/-! ### Thirds -/

/-- A third of a number above zero is rounded below it. -/
theorem roundUnits_third_lt (h : IsScaled m v s) (hpos : 0 < m) :
    roundUnits (v * 2 ^ s) 3 < m := by
  have hv : 0 < v := by
    have heq := h.eq
    rcases h.full with rfl | hfull <;> omega
  refine roundUnits_lt h (by decide) ?_
  rw [← Nat.mul_assoc, ← Nat.mul_assoc, ← Nat.add_mul]
  exact Nat.mul_lt_mul_of_pos_right (by omega) (Nat.two_pow_pos s)

/-- **Two thirds of a number above zero are rounded below it**, unless it is the smallest one. -/
theorem roundUnits_two_thirds_lt_iff (h : IsScaled m v s) (hpos : 0 < m) :
    roundUnits (2 * (v * 2 ^ s)) 3 < m ↔ 1 < m := by
  have heq := h.eq
  by_cases hleast : m = 1
  · obtain ⟨rfl, rfl⟩ : v = 1 ∧ s = 0 := by
      rw [exponentPlace] at heq
      omega
    have hup : roundUnits (2 * (1 * 2 ^ 0)) 3 = 1 := by decide
    rw [hup, hleast]
  · have hv : 2 ≤ v := by
      rcases h.full with rfl | hfull <;> omega
    refine iff_of_true (roundUnits_lt h (by decide) ?_) (by omega)
    rw [← Nat.mul_assoc, ← Nat.mul_assoc, ← Nat.mul_assoc, ← Nat.add_mul]
    exact Nat.mul_lt_mul_of_pos_right (by omega) (Nat.two_pow_pos s)

/-- Neither is rounded above the number. -/
theorem roundUnits_thirds_le (h : IsScaled m v s) :
    roundUnits (v * 2 ^ s) 3 ≤ m ∧ roundUnits (2 * (v * 2 ^ s)) 3 ≤ m := by
  have heq := h.eq
  rcases Nat.lt_trichotomy m 1 with hzero | rfl | hmore
  · obtain ⟨rfl, rfl⟩ : v = 0 ∧ s = 0 := by
      rw [exponentPlace] at heq
      omega
    have hnothing : roundUnits (0 * 2 ^ 0) 3 = 0 ∧ roundUnits (2 * (0 * 2 ^ 0)) 3 = 0 := by decide
    rw [hnothing.1, hnothing.2]
    exact ⟨Nat.zero_le m, Nat.zero_le m⟩
  · obtain ⟨rfl, rfl⟩ : v = 1 ∧ s = 0 := by
      rw [exponentPlace] at heq
      omega
    decide
  · have hpos : 0 < m := Nat.lt_trans Nat.zero_lt_one hmore
    exact ⟨Nat.le_of_lt (roundUnits_third_lt h hpos),
      Nat.le_of_lt ((roundUnits_two_thirds_lt_iff h hpos).mpr hmore)⟩

end Single

namespace Thresholds

open Single

variable {x best : Single} {scores : List Single}

theorem two_mul_eq (hfinite : x.isFinite = true) :
    two.mul x = ofMagnitude x.isNegative (min infinityMagnitude (doubled x.magnitude)) := by
  have htwo : two.isNaN = false ∧ two.isInfinite = false ∧ two.isNegative = false ∧
      two.units = 2 * unitsPerOne := by decide +kernel
  obtain ⟨hnumber, hbounded, hpositive, hunits⟩ := htwo
  obtain ⟨v, s, hscaled⟩ := exists_isScaled x.magnitude
  obtain ⟨v', s', hdoubled, htwice⟩ := hscaled.exists_doubled
  have hexact : two.units * x.units = v' * 2 ^ s' * unitsPerOne := by
    rw [hunits, hscaled.units_eq, htwice, Nat.mul_right_comm]
  rw [mul, hnumber, isNaN_of_isFinite hfinite, hbounded, isInfinite_of_isFinite hfinite, hpositive,
    hexact]
  simp only [Bool.or_false, Bool.false_eq_true, if_false, Bool.false_bne, ofQuotient]
  rw [roundUnits_exact hdoubled unitsPerOne_pos]

theorem div_three_eq (hfinite : x.isFinite = true) :
    x.div three = ofMagnitude x.isNegative (roundUnits x.units 3) := by
  have hthree : three.isNaN = false ∧ three.isInfinite = false ∧ three.isNegative = false ∧
      three.units = 3 * unitsPerOne ∧ three.magnitude ≠ 0 := by decide +kernel
  obtain ⟨hnumber, hbounded, hpositive, hunits, hnonzero⟩ := hthree
  rw [div, hnumber, isNaN_of_isFinite hfinite, hbounded, isInfinite_of_isFinite hfinite, hpositive,
    hunits]
  simp only [Bool.or_false, Bool.false_eq_true, if_false, if_neg hnonzero, Bool.bne_false,
    ofQuotient]
  rw [roundUnits_mul_right _ unitsPerOne_pos]

/-! ### The two ends -/

/-- The smallest number above zero. -/
def leastPositive : Single := ⟨1⟩

/-- The smallest number whose double is not finite, `2 ^ 127`. -/
def doublingLimit : Single := ⟨0x7f000000⟩

/-- **A score is moderate** if it lies strictly between the two ends: two thirds of it are finite,
and are not rounded up to the score. -/
def IsModerate (x : Single) : Prop :=
  leastPositive.lt x = true ∧ x.lt doublingLimit = true

instance : DecidablePred IsModerate := fun _ => inferInstanceAs (Decidable (_ ∧ _))

theorem isModerate_iff (hx : x.isNaN = false) (hsign : x.isNegative = false) :
    IsModerate x ↔ 1 < x.magnitude ∧ x.magnitude < 0x7f000000 := by
  rw [IsModerate, lt_iff_magnitude (by decide) hx (by decide) hsign,
    lt_iff_magnitude hx (by decide) hsign (by decide)]
  rfl

/-- The limit is `2 ^ 127`, and what is doubled there is infinite. -/
example :
    Single.ofNat (2 ^ 127) = doublingLimit ∧ two.mul doublingLimit = infinity false := by
  decide +kernel

/-! ### The thresholds below a best score -/

/-- The double of a magnitude is finite below the limit. -/
theorem doubled_lt_iff {m : Nat} : doubled m < infinityMagnitude ↔ m < 0x7f000000 := by
  rw [doubled, exponentPlace, infinityMagnitude]
  split <;> omega

/-- The lower threshold is a third of the score. -/
theorem medium_ofBest (hfinite : best.isFinite = true) :
    (ofBest best).medium = ofMagnitude best.isNegative (roundUnits best.units 3) :=
  div_three_eq hfinite

/-- Below the limit the upper threshold is two thirds of the score, rounded once. -/
theorem high_ofBest (hfinite : best.isFinite = true) (hlimit : best.magnitude < 0x7f000000) :
    (ofBest best).high = ofMagnitude best.isNegative (roundUnits (2 * best.units) 3) := by
  have hroom := doubled_lt_iff.mpr hlimit
  obtain ⟨v, s, hscaled⟩ := exists_isScaled best.magnitude
  obtain ⟨v', s', hdoubled, htwice⟩ := hscaled.exists_doubled
  obtain ⟨hmagnitude, hsign, -⟩ := magnitude_ofMagnitude best.isNegative (Nat.le_of_lt hroom)
  have hdouble : (ofMagnitude best.isNegative (doubled best.magnitude)).isFinite = true := by
    rw [isFinite, hmagnitude]
    exact decide_eq_true hroom
  have hunits : (ofMagnitude best.isNegative (doubled best.magnitude)).units =
      2 * best.units := by
    rw [hscaled.units_eq, ← htwice]
    exact IsScaled.units_eq (by rw [hmagnitude]; exact hdoubled)
  rw [ofBest, two_mul_eq hfinite, Nat.min_eq_right (Nat.le_of_lt hroom), div_three_eq hdouble,
    hsign, hunits]

section Below

variable (hfinite : best.isFinite = true) (hsign : best.isNegative = false)

include hfinite hsign

/-- From the limit on it is infinite, as the double of the score is. -/
theorem high_ofBest_of_le (hlimit : 0x7f000000 ≤ best.magnitude) :
    (ofBest best).high = infinity false := by
  have hroom : ¬doubled best.magnitude < infinityMagnitude := fun h =>
    absurd (doubled_lt_iff.mp h) (Nat.not_lt.mpr hlimit)
  have hthird : (ofMagnitude false infinityMagnitude).div three = infinity false := by
    decide +kernel
  rw [ofBest, two_mul_eq hfinite, hsign, Nat.min_eq_left (Nat.not_lt.mp hroom), hthird]

variable (hpos : 0 < best.magnitude)

include hpos

/-- **The middle tier is reached** by every best score above zero. -/
theorem medium_lt : (ofBest best).medium.lt best = true := by
  obtain ⟨v, s, hscaled⟩ := exists_isScaled best.magnitude
  obtain ⟨hmagnitude, hpositive, hnumber⟩ :=
    magnitude_ofMagnitude false (roundUnits_le best.units 3)
  rw [medium_ofBest hfinite, hsign, lt_iff_magnitude hnumber (isNaN_of_isFinite hfinite) hpositive
    hsign, hmagnitude, hscaled.units_eq]
  exact roundUnits_third_lt hscaled hpos

/-- **The highest tier is reached** by a best score that is moderate, and by no other one. -/
theorem high_lt_iff : (ofBest best).high.lt best = true ↔ IsModerate best := by
  have hnumber := isNaN_of_isFinite hfinite
  rw [isModerate_iff hnumber hsign]
  by_cases hlimit : best.magnitude < 0x7f000000
  · obtain ⟨v, s, hscaled⟩ := exists_isScaled best.magnitude
    obtain ⟨hthird, hpositive, hthirdnumber⟩ :=
      magnitude_ofMagnitude false (roundUnits_le (2 * best.units) 3)
    rw [high_ofBest hfinite hlimit, hsign,
      lt_iff_magnitude hthirdnumber hnumber hpositive hsign, hthird, hscaled.units_eq,
      roundUnits_two_thirds_lt_iff hscaled hpos, and_iff_left hlimit]
  · have hbest : best.magnitude < infinityMagnitude := by simpa [isFinite] using hfinite
    have hinfinite : (infinity false).magnitude = infinityMagnitude := by decide
    rw [high_ofBest_of_le hfinite hsign (Nat.not_lt.mp hlimit),
      lt_iff_magnitude (by decide) hnumber (by decide) hsign, hinfinite]
    exact iff_of_false (Nat.not_lt.mpr (Nat.le_of_lt hbest)) fun h => hlimit h.2

/-- The tier of the best score by its own thresholds. -/
theorem classify_ofBest :
    (ofBest best).classify best = if IsModerate best then .high else .medium := by
  have hhigh := high_lt_iff hfinite hsign hpos
  rw [classify]
  by_cases hmoderate : IsModerate best
  · rw [if_pos (hhigh.mpr hmoderate), if_pos hmoderate]
  · rw [if_neg (fun h => hmoderate (hhigh.mp h)), if_neg hmoderate,
      if_pos (medium_lt hfinite hsign hpos)]

end Below

/-! ### A best score that is not above zero -/

/-- A score is finite if twice the score is. -/
theorem isFinite_of_two_mul (h : (two.mul x).isFinite = true) : x.isFinite = true := by
  by_contra hnot
  have hnan : nan.isFinite = false := by decide
  have hinfinity : ∀ negative, (infinity negative).isFinite = false := by decide
  rw [mul] at h
  rcases isNaN_or_isInfinite hnot with hnumber | hinfinite
  · simp [hnumber, hnan] at h
  · simp only [hinfinite, Bool.or_true, if_true] at h
    split_ifs at h <;> simp [hnan, hinfinity] at h

/-- **The thresholds of a score that is not above zero** do not lie below it, provided that twice
the score is finite: no score that is as small exceeds any of them. -/
theorem classify_ofBest_of_le (hroom : (two.mul best).isFinite = true) (hpos : best.position ≤ 0)
    (hx : best.lt x = false) : (ofBest best).classify x = .low := by
  have hfinite := isFinite_of_two_mul hroom
  have hnumber := isNaN_of_isFinite hfinite
  have hlimit : best.magnitude < 0x7f000000 := by
    rw [two_mul_eq hfinite, isFinite, decide_eq_true_iff,
      (magnitude_ofMagnitude _ (Nat.min_le_left _ _)).1] at hroom
    refine doubled_lt_iff.mp ?_
    omega
  obtain ⟨v, s, hscaled⟩ := exists_isScaled best.magnitude
  obtain ⟨hthird, htwo⟩ := roundUnits_thirds_le hscaled
  rw [← hscaled.units_eq] at hthird htwo
  have hnot : ∀ m ≤ best.magnitude, ¬(ofMagnitude best.isNegative m).lt x = true := by
    intro m hm hlt
    have hle := (not_lt_iff hnumber (lt_iff.mp hlt).2.1).mp hx
    -- what the score exceeds the best one exceeds as well
    have hbest := (lt_iff.mp (exceeds_of_le hnumber hle hlt)).2.2
    exact Int.not_lt.mpr (position_le_ofMagnitude hnumber hpos hm) hbest
  rw [classify, high_ofBest hfinite hlimit, medium_ofBest hfinite, if_neg (hnot _ htwo),
    if_neg (hnot _ hthird)]

/-! ### The best of some scores -/

/-- A score above zero that no other one exceeds is the best. -/
theorem bestOf_eq (hmem : best ∈ scores) (hmost : ∀ x ∈ scores, best.lt x = false)
    (hpos : Single.zero.lt best = true) : bestOf scores = best := by
  obtain ⟨hnumber, hsign, hmagnitude⟩ := of_zero_lt hpos
  obtain ⟨hfound, hone, -, hall⟩ := bestOf_spec scores
  have hupper := (not_lt_iff hfound hnumber).mp (hall best hmem)
  have hlower : (bestOf scores).position ≤ best.position := by
    rcases hone with hzero | hin
    · exact Int.le_of_lt (hzero ▸ (lt_iff.mp hpos).2.2)
    · exact (not_lt_iff hnumber hfound).mp (hmost _ hin)
  have hposition : best.position = best.magnitude := by
    rw [position, hsign, if_neg Bool.false_ne_true]
  have hfoundpos : Single.zero.lt (bestOf scores) = true := by
    have hzero := (lt_iff.mp hpos).2.2
    exact lt_iff.mpr ⟨by decide, hfound, Int.lt_of_lt_of_le hzero hupper⟩
  obtain ⟨-, hfoundsign, -⟩ := of_zero_lt hfoundpos
  have hfoundposition : (bestOf scores).position = (bestOf scores).magnitude := by
    rw [position, hfoundsign, if_neg Bool.false_ne_true]
  exact eq_of_magnitude_eq hfoundsign hsign (by omega)

/-- If the largest score is not above zero, none is. -/
theorem IsLargest.not_zero_lt (h : IsLargest scores best) (hnot : Single.zero.lt best = false) :
    ∀ x ∈ scores, Single.zero.lt x = false := by
  intro x hx
  rw [← Bool.not_eq_true] at hnot ⊢
  intro hlt
  obtain ⟨hzero, hnumber, hposition⟩ := lt_iff.mp hlt
  have hle := (not_lt_iff h.number hnumber).mp (h.most x hx)
  exact hnot (lt_iff.mpr ⟨hzero, h.number, Int.lt_of_lt_of_le hposition hle⟩)

/-- **The best score is the larger of zero and the largest score.** -/
theorem IsLargest.bestOf_eq_max (h : IsLargest scores best) :
    bestOf scores = Single.zero.max best := by
  have hzero : Single.zero.isNaN = false := by decide
  rw [Single.max, hzero, h.number]
  simp only [Bool.false_eq_true, if_false]
  by_cases hpos : Single.zero.lt best = true
  · rw [if_pos hpos]
    exact bestOf_eq h.mem h.most hpos
  · rw [if_neg hpos]
    exact bestOf_eq_zero (h.not_zero_lt (Bool.not_eq_true _ ▸ hpos))

/-- **The tiers are those of the largest score**, even where it is below zero and the best score is
zero, unless twice the largest score is no longer finite then. -/
theorem IsLargest.classify_eq (h : IsLargest scores best)
    (hroom : Single.zero.lt best = true ∨ (two.mul best).isFinite = true) (hx : x ∈ scores) :
    (ofScores scores).classify x = (ofBest best).classify x := by
  by_cases hpos : Single.zero.lt best = true
  · rw [ofScores, bestOf_eq h.mem h.most hpos]
  · have hnot : Single.zero.lt best = false := Bool.not_eq_true _ ▸ hpos
    have hle : best.position ≤ 0 := (not_lt_iff (by decide) h.number).mp hnot
    rw [classify_eq_low (h.not_zero_lt hnot) hx,
      classify_ofBest_of_le (hroom.resolve_left hpos) hle (h.most x hx)]

/-- **The tier of the best score.** Let a score be above zero and finite, and let none of the scores
exceed it. Then it is of the highest tier if it is moderate, and of the middle tier otherwise; there
is a score of the highest tier if and only if it is moderate; and the same goes for the score when
it is alone. -/
theorem classify_best (scores : List Single) (best : Single) (hmem : best ∈ scores)
    (hmost : ∀ x ∈ scores, best.lt x = false) (hpos : Single.zero.lt best = true)
    (hfinite : best.isFinite = true) :
    (ofScores scores).classify best = (if IsModerate best then .high else .medium) ∧
      (.high ∈ classifyAll scores ↔ IsModerate best) ∧
      classifyAll [best] = [if IsModerate best then .high else .medium] := by
  obtain ⟨hnumber, hsign, hmagnitude⟩ := of_zero_lt hpos
  have htier := classify_ofBest hfinite hsign hmagnitude
  have hbest : ofScores scores = ofBest best := by rw [ofScores, bestOf_eq hmem hmost hpos]
  have halone : ofScores [best] = ofBest best := by
    have hitself : best.lt best = false := hmost best hmem
    rw [ofScores, bestOf_eq List.mem_cons_self (by simpa using hitself) hpos]
  refine ⟨by rw [hbest, htier], ?_, by rw [classifyAll, halone, List.map_singleton, htier]⟩
  rw [classifyAll, List.mem_map, hbest]
  constructor
  · rintro ⟨x, hx, hhigh⟩
    -- no score has a higher tier than the best one
    have hreached : (ofBest best).high.lt best = true := by
      rw [classify] at hhigh
      split at hhigh
      · next habove =>
        refine exceeds_of_le hnumber ?_ habove
        exact (not_lt_iff hnumber (lt_iff.mp habove).2.1).mp (hmost x hx)
      · split at hhigh <;> cases hhigh
    exact (high_lt_iff hfinite hsign hmagnitude).mp hreached
  · intro hmoderate
    exact ⟨best, hmem, by rw [htier, if_pos hmoderate]⟩

/-- Nine, six, one and a pattern that is no number; the largest finite score; and the smallest one
above zero. The first is of the highest tier, the others are of the middle one. -/
theorem classify_best_of_ends :
    let nine : Single := ⟨0x41100000⟩
    let scores : List Single := [⟨0x40c00000⟩, nine, Single.nan, ⟨0x3f800000⟩]
    let largest : Single := ⟨0x7f7fffff⟩
    (nine ∈ scores ∧ (∀ x ∈ scores, nine.lt x = false) ∧ Single.zero.lt nine = true ∧
        nine.isFinite = true ∧ Single.zero.lt largest = true ∧ largest.isFinite = true ∧
        Single.zero.lt leastPositive = true ∧ leastPositive.isFinite = true) ∧
      (ofScores scores).classify nine = .high ∧ classifyAll [largest] = [.medium] ∧
      .high ∉ classifyAll [largest] ∧ classifyAll [leastPositive] = [.medium] := by
  intro nine scores largest
  have hmem : nine ∈ scores := by decide
  have hmost : ∀ x ∈ scores, nine.lt x = false := by decide
  have hpos : Single.zero.lt nine = true := by decide
  have hfinite : nine.isFinite = true := by decide
  have hlargest : Single.zero.lt largest = true ∧ largest.isFinite = true ∧
      ∀ x ∈ [largest], largest.lt x = false := by decide
  have hleast : Single.zero.lt leastPositive = true ∧ leastPositive.isFinite = true ∧
      ∀ x ∈ [leastPositive], leastPositive.lt x = false := by decide
  obtain ⟨hnine, -, -⟩ := classify_best scores nine hmem hmost hpos hfinite
  obtain ⟨-, hnone, hmiddle⟩ :=
    classify_best [largest] largest (by decide) hlargest.2.2 hlargest.1 hlargest.2.1
  obtain ⟨-, -, hup⟩ := classify_best [leastPositive] leastPositive (by decide) hleast.2.2 hleast.1
    hleast.2.1
  refine ⟨⟨hmem, hmost, hpos, hfinite, hlargest.1, hlargest.2.1, hleast.1, hleast.2.1⟩, ?_, ?_, ?_,
    ?_⟩
  · rw [hnine, if_pos (by decide)]
  · rw [hmiddle, if_neg (by decide)]
  · rw [hnone]
    decide
  · rw [hup, if_neg (by decide)]

end Thresholds

end LiveSearch
