import LiveSearch.Calendar
import Mathlib.Logic.Function.Iterate

/-!
# Counting days

The calendar says which day comes **next** (`Day.next`): the following one of the month, the first
of the next month, or the first of January. Counting days means to go on from the first of January
1970 in this way, and `Day.sinceEpoch` is the number of steps, found by a formula. The two are the
same because the formula goes up by one with each step, at the end of a month and of a year as
everywhere else (`Day.sinceEpoch_next`), and because an earlier day has a smaller number
(`Day.sinceEpoch_lt_iff`), so that no two days share one.

So **a day is reached after so many steps exactly if the formula says so**
(`Day.iterate_next_eq_iff`), without a limit to the years.
-/

namespace LiveSearch

namespace Day

variable {d d' : Day} {n m m' : Nat} {year year' : Int}

/-! ### The calendar -/

/-- The first of January 1970. -/
def epoch : Day := ⟨1970, 1, 1⟩

/-- **The day exists**: there is such a month, and it has such a day. -/
structure Exists (d : Day) : Prop where
  one_le_month : 1 ≤ d.month
  month_le : d.month ≤ 12
  one_le_day : 1 ≤ d.day
  day_le : d.day ≤ lengthOfMonth d.year d.month

/-- **The next day.** -/
def next (d : Day) : Day :=
  if d.day < lengthOfMonth d.year d.month then { d with day := d.day + 1 }
  else if d.month < 12 then { year := d.year, month := d.month + 1, day := 1 }
  else { year := d.year + 1, month := 1, day := 1 }

/-- **The day is before another one.** -/
def Before (d d' : Day) : Prop :=
  d.year < d'.year ∨
    d.year = d'.year ∧ (d.month < d'.month ∨ d.month = d'.month ∧ d.day < d'.day)

/-- A day can be read if it exists, in a year that days are read in. -/
theorem isValid_iff : d.isValid = true ↔ d.Exists ∧ firstYear ≤ d.year ∧ d.year ≤ lastYear := by
  simp only [isValid, Bool.and_eq_true, decide_eq_true_iff]
  constructor
  · rintro ⟨⟨⟨⟨⟨hfirst, hlast⟩, hmonth⟩, hmonth'⟩, hday⟩, hday'⟩
    exact ⟨⟨hmonth, hmonth', hday, hday'⟩, hfirst, hlast⟩
  · rintro ⟨⟨hmonth, hmonth', hday, hday'⟩, hfirst, hlast⟩
    exact ⟨⟨⟨⟨⟨hfirst, hlast⟩, hmonth⟩, hmonth'⟩, hday⟩, hday'⟩

theorem exists_epoch : epoch.Exists :=
  ⟨by decide, by decide, by decide, by decide⟩

theorem lengthOfMonth_bounds (year : Int) (month : Nat) :
    28 ≤ lengthOfMonth year month ∧ lengthOfMonth year month ≤ 31 := by
  rw [lengthOfMonth]
  split
  · split <;> decide
  · split <;> decide

/-- The day after a day that exists exists. -/
theorem Exists.next (h : d.Exists) : d.next.Exists := by
  obtain ⟨hmonth, hmonth', hday, hday'⟩ := h
  rw [Day.next]
  split
  · exact ⟨hmonth, hmonth', Nat.le_add_left 1 d.day, by assumption⟩
  · have hone : ∀ year month, 1 ≤ lengthOfMonth year month := fun year month =>
      Nat.le_trans (by decide) (lengthOfMonth_bounds year month).1
    split
    · exact ⟨Nat.le_add_left 1 d.month, by assumption, Nat.le_refl 1, hone _ _⟩
    · exact ⟨Nat.le_refl 1, Nat.le_add_left 1 11, Nat.le_refl 1, hone _ _⟩

/-! ### Months and years -/

/-- The length of a year. -/
def lengthOfYear (year : Int) : Nat :=
  if isLeapYear year then 366 else 365

theorem daysBeforeMonth_succ (year : Int) (hm : 1 ≤ m) :
    daysBeforeMonth year (m + 1) = daysBeforeMonth year m + lengthOfMonth year m := by
  obtain ⟨m, rfl⟩ := Nat.exists_eq_add_of_le' hm
  rfl

/-- A month ends before a later one begins. -/
theorem daysBeforeMonth_add_le (year : Int) (hm : 1 ≤ m) (hlt : m < m') :
    daysBeforeMonth year m + lengthOfMonth year m ≤ daysBeforeMonth year m' := by
  induction m' with
  | zero => exact absurd hlt (Nat.not_lt_zero m)
  | succ m' ih =>
    rcases Nat.lt_succ_iff_lt_or_eq.mp hlt with hearlier | rfl
    · have hbefore := ih hearlier
      rw [daysBeforeMonth_succ year (by omega)]
      omega
    · exact Nat.le_of_eq (daysBeforeMonth_succ year hm).symm

/-- Twelve months make a year. -/
theorem daysBeforeMonth_thirteen (year : Int) : daysBeforeMonth year 13 = lengthOfYear year := by
  simp only [daysBeforeMonth, lengthOfMonth, lengthOfYear]
  cases isLeapYear year <;> rfl

/-- **A year is one day longer** in every fourth year, except in the hundredths that are not four
hundredths. -/
theorem daysBeforeYear_succ (year : Int) :
    daysBeforeYear (year + 1) = daysBeforeYear year + lengthOfYear year := by
  rw [daysBeforeYear, daysBeforeYear, lengthOfYear]
  cases hleap : isLeapYear year with
  | true =>
    rw [isLeapYear] at hleap
    simp only [Bool.and_eq_true, Bool.or_eq_true, decide_eq_true_iff] at hleap
    simp only [if_true]
    omega
  | false =>
    rw [isLeapYear, Bool.and_eq_false_iff, Bool.or_eq_false_iff] at hleap
    simp only [decide_eq_false_iff_not, Decidable.not_not] at hleap
    simp only [Bool.false_eq_true, if_false]
    omega

/-- A year ends before a later one begins. -/
theorem daysBeforeYear_add_le (hlt : year < year') :
    daysBeforeYear year + lengthOfYear year ≤ daysBeforeYear year' := by
  rw [← daysBeforeYear_succ, daysBeforeYear, daysBeforeYear]
  omega

/-! ### The number of a day -/

/-- The number of a day is that of the first day of its year and the place of the day in the
year. -/
theorem sinceEpoch_eq (d : Day) :
    d.sinceEpoch =
      daysBeforeYear d.year - daysBeforeYear 1970 + (daysBeforeMonth d.year d.month : Int) +
        (d.day : Int) - 1 := rfl

/-- A day lies within its month, and the month within its year. -/
theorem Exists.within (h : d.Exists) :
    daysBeforeMonth d.year d.month + d.day ≤ lengthOfYear d.year := by
  have hlast : d.month < 13 := by have := h.month_le; omega
  have hmonth := daysBeforeMonth_add_le d.year h.one_le_month hlast
  have hyear := daysBeforeMonth_thirteen d.year
  have hday := h.day_le
  omega

/-- **The number goes up by one** from each day to the next. -/
theorem sinceEpoch_next (h : d.Exists) : d.next.sinceEpoch = d.sinceEpoch + 1 := by
  have hday := h.day_le
  rw [next, sinceEpoch_eq d]
  split
  · rw [sinceEpoch_eq]
    dsimp only
    omega
  · split
    · have hmonth := daysBeforeMonth_succ d.year h.one_le_month
      rw [sinceEpoch_eq]
      dsimp only
      omega
    · next hfull hlast =>
      have htwelve : d.month = 12 := by have := h.month_le; omega
      have hmonth : daysBeforeMonth d.year 13 =
          daysBeforeMonth d.year 12 + lengthOfMonth d.year 12 := rfl
      have hthirteen := daysBeforeMonth_thirteen d.year
      have hyear := daysBeforeYear_succ d.year
      have hfirst : daysBeforeMonth (d.year + 1) 1 = 0 := rfl
      rw [htwelve] at hfull hday ⊢
      rw [sinceEpoch_eq, hfirst]
      dsimp only
      omega

/-- An earlier day has a smaller number. -/
theorem sinceEpoch_lt_of_before (h : d.Exists) (h' : d'.Exists) (hbefore : d.Before d') :
    d.sinceEpoch < d'.sinceEpoch := by
  rw [sinceEpoch_eq, sinceEpoch_eq]
  rcases hbefore with hyear | ⟨hyear, hmonth | ⟨hmonth, hday⟩⟩
  · have hwithin := h.within
    have hnext := daysBeforeYear_add_le hyear
    have hday' := h'.one_le_day
    omega
  · have hnext := daysBeforeMonth_add_le d.year h.one_le_month hmonth
    have hday := h.day_le
    have hday' := h'.one_le_day
    rw [← hyear]
    omega
  · rw [← hyear, ← hmonth]
    omega

/-- Of two days one is the earlier one, if they are not the same. -/
theorem before_or_eq_or_before (d d' : Day) : d.Before d' ∨ d = d' ∨ d'.Before d := by
  obtain ⟨year, month, day⟩ := d
  obtain ⟨year', month', day'⟩ := d'
  simp only [Before, mk.injEq]
  omega

/-- **An earlier day has a smaller number**, and so only an earlier day has. -/
theorem sinceEpoch_lt_iff (h : d.Exists) (h' : d'.Exists) :
    d.sinceEpoch < d'.sinceEpoch ↔ d.Before d' := by
  refine ⟨fun hlt => ?_, sinceEpoch_lt_of_before h h'⟩
  rcases before_or_eq_or_before d d' with hbefore | rfl | hafter
  · exact hbefore
  · exact absurd hlt (Int.lt_irrefl _)
  · exact absurd (sinceEpoch_lt_of_before h' h hafter) (Int.lt_asymm hlt)

/-- No two days have one number. -/
theorem eq_of_sinceEpoch_eq (h : d.Exists) (h' : d'.Exists)
    (hsame : d.sinceEpoch = d'.sinceEpoch) : d = d' := by
  rcases before_or_eq_or_before d d' with hbefore | heq | hafter
  · have := sinceEpoch_lt_of_before h h' hbefore
    omega
  · exact heq
  · have := sinceEpoch_lt_of_before h' h hafter
    omega

/-! ### Counting -/

/-- The days that follow the first of January 1970 are numbered one after the other. -/
theorem iterate_next (n : Nat) : (next^[n] epoch).Exists ∧ (next^[n] epoch).sinceEpoch = n := by
  induction n with
  | zero => exact ⟨exists_epoch, by decide⟩
  | succ n ih =>
    rw [Function.iterate_succ_apply', sinceEpoch_next ih.1, ih.2]
    exact ⟨ih.1.next, by omega⟩

/-- **The number of a day is the number of days to it** from the first of January 1970. -/
theorem iterate_next_eq_iff (h : d.Exists) : next^[n] epoch = d ↔ d.sinceEpoch = n := by
  obtain ⟨hexists, hnumber⟩ := iterate_next n
  constructor
  · rintro rfl
    exact hnumber
  · intro hd
    exact eq_of_sinceEpoch_eq hexists h (hnumber.trans hd.symm)

/-- A day is not before the first of January 1970 if its year is not before 1970. -/
theorem sinceEpoch_nonneg_iff (h : d.Exists) : 0 ≤ d.sinceEpoch ↔ 1970 ≤ d.year := by
  have hday := h.one_le_day
  rw [sinceEpoch_eq]
  constructor
  · intro hnonneg
    by_contra hearly
    have hbefore := daysBeforeYear_add_le (Int.not_le.mp hearly)
    have hwithin := h.within
    omega
  · intro hyear
    rcases Int.lt_or_eq_of_le hyear with hlater | hsame
    · have hbefore := daysBeforeYear_add_le hlater
      have hlength : 0 < lengthOfYear 1970 := by decide
      omega
    · rw [← hsame]
      omega

/-- The days of the years that are read have numbers below a thousand millions. -/
theorem sinceEpoch_lt (h : d.Exists) (hlast : d.year ≤ lastYear) :
    d.sinceEpoch < 1000000000 := by
  have hwithin := h.within
  have hlength : lengthOfYear d.year ≤ 366 := by
    rw [lengthOfYear]
    split <;> decide
  have hyears : daysBeforeYear d.year ≤ daysBeforeYear lastYear := by
    rw [daysBeforeYear, daysBeforeYear]
    omega
  have hnumbers : daysBeforeYear lastYear - daysBeforeYear 1970 < 900000000 := by decide
  rw [sinceEpoch_eq]
  omega

end Day

end LiveSearch
