import LiveSearch.Single.Rounding
import Mathlib.Algebra.Ring.Nat
import Mathlib.Tactic.SplitIfs

/-!
# Numbers and their rounding

The magnitude of a number is a **significand** of at most twenty-four binary digits and a **shift**:
the number is the significand times `2 ^ shift` units, and all digits are used unless the shift is
zero (`Single.IsScaled`). Every magnitude is written in one such way, and the larger magnitude is the
larger number.

Rounding goes to the nearest integer on the scale of the exact result, which is a matter of half a
unit of this scale (`two_mul_roundQuotient_le`). What is said of it here is what a threshold needs.
**A number is rounded to itself** (`Single.roundUnits_exact`), and **what lies below the middle
between a number and the one before it is rounded below the number** (`Single.roundUnits_lt`),
although its scale may be another one.
-/

namespace LiveSearch

/-! ### The nearest integer -/

section Quotient

variable {num den n : Nat}

/-- The nearest integer is too large by half at most. -/
theorem two_mul_roundQuotient_le (hden : 0 < den) :
    2 * roundQuotient num den * den ≤ 2 * num + den := by
  have hsplit := Nat.div_add_mod num den
  have hrest := Nat.mod_lt num hden
  have hdown : 2 * (num / den) * den ≤ 2 * num + den := by
    rw [Nat.mul_assoc, Nat.mul_comm (num / den)]
    omega
  have hup : den ≤ 2 * (num % den) → 2 * (num / den + 1) * den ≤ 2 * num + den := by
    intro hhalf
    rw [Nat.mul_assoc, Nat.add_mul, Nat.one_mul, Nat.mul_comm (num / den)]
    omega
  rw [roundQuotient]
  split_ifs with hbelow habove heven
  · exact hdown
  · exact hup (Nat.le_of_lt habove)
  · exact hdown
  · exact hup (Nat.not_lt.mp hbelow)

/-- What is half below an integer is rounded below it. -/
theorem roundQuotient_lt (hden : 0 < den) (h : 2 * num + den < 2 * n * den) :
    roundQuotient num den < n := by
  have hle : 2 * roundQuotient num den * den ≤ 2 * num + den := two_mul_roundQuotient_le hden
  have := Nat.lt_of_mul_lt_mul_right (Nat.lt_of_le_of_lt hle h)
  omega

/-- What is below an integer is not rounded above it. -/
theorem roundQuotient_le (hden : 0 < den) (h : num < n * den) : roundQuotient num den ≤ n := by
  refine Nat.lt_succ_iff.mp (roundQuotient_lt hden ?_)
  rw [Nat.succ_eq_add_one, Nat.mul_assoc, Nat.add_mul, Nat.one_mul]
  omega

/-- An integer is rounded to itself. -/
theorem roundQuotient_exact (hden : 0 < den) (n : Nat) : roundQuotient (n * den) den = n := by
  rw [roundQuotient]
  rw [Nat.mul_mod_left, Nat.mul_div_cancel n hden, Nat.mul_zero, if_pos hden]

end Quotient

namespace Single

/-! ### Significand and shift -/

/-- **A magnitude is scaled**: it has a significand of twenty-four digits, or a smaller one with no
shift. -/
structure IsScaled (magnitude significand shift : Nat) : Prop where
  /-- The significand has room in twenty-four digits. -/
  lt : significand < 2 ^ 24
  /-- A shift leaves no digit unused. -/
  full : shift = 0 ∨ 2 ^ 23 ≤ significand
  /-- The magnitude is made of the two. -/
  eq : magnitude = shift * exponentPlace + significand

variable {x : Single} {m m' v s v' s' num den : Nat}

/-- Every magnitude is scaled. -/
theorem exists_isScaled (m : Nat) : ∃ v s, IsScaled m v s := by
  have hsplit := Nat.div_add_mod m exponentPlace
  have hrest : m % exponentPlace < 2 ^ 23 := Nat.mod_lt m (by decide)
  rcases hexponent : m / exponentPlace with _ | exponent
  · rw [hexponent] at hsplit
    refine ⟨m, 0, ?_, Or.inl rfl, ?_⟩ <;> omega
  · rw [hexponent, exponentPlace] at hsplit
    rw [exponentPlace] at hrest
    refine ⟨2 ^ 23 + m % exponentPlace, exponent, ?_, ?_, ?_⟩ <;> rw [exponentPlace] <;> omega

/-- The units of a number are its significand, shifted. -/
theorem IsScaled.units_eq (h : IsScaled x.magnitude v s) : x.units = v * 2 ^ s := by
  obtain ⟨hlt, hfull, heq⟩ := h
  rw [exponentPlace] at heq
  rw [units, Nat.pow_eq, exponentPlace]
  by_cases hsmall : v < 2 ^ 23
  -- a number below the scales: its exponent is zero
  · obtain rfl : s = 0 := by omega
    have hexponent : x.magnitude / 0x800000 = 0 := by omega
    rw [if_pos hexponent, Nat.pow_zero]
    omega
  · have hexponent : x.magnitude / 0x800000 = s + 1 := by omega
    have hfraction : 0x800000 + x.magnitude % 0x800000 = v := by omega
    rw [if_neg (by omega), hfraction, hexponent, Nat.add_sub_cancel]

/-- The shift of a number is that of its units. -/
theorem shiftOf_eq (hlt : v < 2 ^ 24) (hfull : s = 0 ∨ 2 ^ 23 ≤ v) : shiftOf (v * 2 ^ s) = s := by
  have hupper : v * 2 ^ s < 2 ^ (24 + s) := by
    rw [Nat.pow_add]
    exact Nat.mul_lt_mul_of_pos_right hlt (Nat.two_pow_pos s)
  rw [shiftOf]
  rcases Nat.eq_zero_or_pos (v * 2 ^ s) with hzero | hpos
  · have hv : v = 0 := (Nat.mul_eq_zero.mp hzero).resolve_right (Nat.ne_of_gt (Nat.two_pow_pos s))
    rw [hzero, Nat.log2_zero]
    omega
  · have hbelow := (Nat.log2_lt (Nat.ne_of_gt hpos)).mpr hupper
    rcases hfull with rfl | hfull
    · omega
    · have hlower : 2 ^ (23 + s) ≤ v * 2 ^ s := by
        rw [Nat.pow_add]
        exact Nat.mul_le_mul_right _ hfull
      have habove := (Nat.le_log2 (Nat.ne_of_gt hpos)).mpr hlower
      omega

/-! ### Rounding -/

/-- **A number is rounded to itself**, as far as it is finite. -/
theorem roundUnits_exact (h : IsScaled m v s) (hden : 0 < den) :
    roundUnits (v * 2 ^ s * den) den = min infinityMagnitude m := by
  have hexact : v * 2 ^ s * den = v * (den * 2 ^ s) := by
    rw [Nat.mul_assoc, Nat.mul_comm (2 ^ s)]
  rw [roundUnits, Nat.mul_div_cancel _ hden, shiftOf_eq h.lt h.full]
  rw [Nat.pow_eq, hexact, roundQuotient_exact (Nat.mul_pos hden (Nat.two_pow_pos s)), h.eq]

/-- The scale of a quotient leaves it twenty-four digits. -/
theorem lt_scale (hden : 0 < den) (num : Nat) :
    num < 2 ^ 24 * (den * 2 ^ shiftOf (num / den)) := by
  have hlog : (num / den).log2 < 24 + shiftOf (num / den) := by
    rw [shiftOf]
    omega
  have hquotient : num / den < 2 ^ 24 * 2 ^ shiftOf (num / den) := by
    rw [← Nat.pow_add]
    exact Nat.lt_of_lt_of_le Nat.lt_log2_self (Nat.pow_le_pow_right (by decide) hlog)
  have hnum := (Nat.div_lt_iff_lt_mul hden).mp hquotient
  rwa [Nat.mul_assoc, Nat.mul_comm (2 ^ shiftOf (num / den))] at hnum

/-- What lies below a number has no larger scale. -/
theorem shiftOf_le (h : IsScaled m v s) (hden : 0 < den) (hnum : num < v * (den * 2 ^ s)) :
    shiftOf (num / den) ≤ s := by
  have hquotient : num / den < v * 2 ^ s := by
    rw [Nat.div_lt_iff_lt_mul hden, Nat.mul_assoc, Nat.mul_comm (2 ^ s)]
    exact hnum
  have hlog : (num / den).log2 ≤ (v * 2 ^ s).log2 := by
    rcases Nat.eq_zero_or_pos (num / den) with hzero | hpos
    · rw [hzero, Nat.log2_zero]
      exact Nat.zero_le _
    · have hself := Nat.log2_self_le (Nat.ne_of_gt hpos)
      exact (Nat.le_log2 (by omega)).mpr (Nat.le_trans hself (Nat.le_of_lt hquotient))
  have hshift := shiftOf_eq h.lt h.full
  rw [shiftOf] at hshift ⊢
  omega

/-- **What lies below the middle between a number and the one before it is rounded below the
number.** -/
theorem roundUnits_lt (h : IsScaled m v s) (hden : 0 < den)
    (hmiddle : 2 * num + den * 2 ^ s < 2 * v * (den * 2 ^ s)) : roundUnits num den < m := by
  have hnum : num < v * (den * 2 ^ s) := by
    rw [Nat.mul_assoc] at hmiddle
    omega
  have hv : 0 < v := by
    rcases Nat.eq_zero_or_pos v with rfl | hv
    · omega
    · exact hv
  have hshift := shiftOf_le h hden hnum
  have hroom := lt_scale hden num
  have heq := h.eq
  have hfull := h.full
  rw [roundUnits]
  rw [Nat.pow_eq]
  refine Nat.lt_of_le_of_lt (Nat.min_le_right _ _) ?_
  generalize shiftOf (num / den) = t at hshift hroom ⊢
  have hscale : 0 < den * 2 ^ t := Nat.mul_pos hden (Nat.two_pow_pos t)
  have hround := roundQuotient_le hscale hroom
  -- the quotient has the scale of the number, the next lower one, or one that is lower still
  rcases (by omega : t = s ∨ t + 1 = s ∨ t + 2 ≤ s) with rfl | rfl | hlower
  · have hbelow := roundQuotient_lt hscale hmiddle
    omega
  · rcases (by omega : v = 2 ^ 23 ∨ 2 ^ 23 < v) with rfl | hlarge
    -- the number begins its scale, so the number before it is the last one of the lower scale
    · have hbelow : roundQuotient num (den * 2 ^ t) < 2 ^ 24 := by
        refine roundQuotient_lt hscale ?_
        have hdouble : den * 2 ^ (t + 1) = 2 * (den * 2 ^ t) := by
          rw [Nat.pow_succ, ← Nat.mul_assoc, Nat.mul_comm]
        rw [hdouble] at hmiddle
        omega
      rw [exponentPlace] at heq ⊢
      omega
    · rw [exponentPlace] at heq ⊢
      omega
  · rw [exponentPlace] at heq ⊢
    omega

/-- Nothing is changed by taking a fraction in other units. -/
theorem roundUnits_mul_right (num : Nat) {k : Nat} (hk : 0 < k) (den : Nat) :
    roundUnits (num * k) (den * k) = roundUnits num den := by
  have hquotient : ∀ d, roundQuotient (num * k) (d * k) = roundQuotient num d := by
    intro d
    rw [roundQuotient, roundQuotient, Nat.mul_div_mul_right _ _ hk, Nat.mul_mod_mul_right,
      ← Nat.mul_assoc]
    simp only [Nat.mul_lt_mul_right hk]
  rw [roundUnits, roundUnits, Nat.mul_div_mul_right _ _ hk, Nat.mul_right_comm, hquotient]

end Single

end LiveSearch
