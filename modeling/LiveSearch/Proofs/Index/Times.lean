import LiveSearch.Proofs.Index.Holdings

/-!
# Conditions on times

A time is compared as a number of seconds, before or after another one, or by its day. Times have
sixty-four bits and so have the bounds that they are compared with, and the day of a time is found by
a subtraction and an addition in as many bits. Neither of them goes wrong, wherever the time lies: the
subtraction takes away a remainder (`toNat_dayStart`), and the addition says so where the sum does not
fit (`sum?_eq_some_iff`), which is on the last day alone. That day has no end, and its range no upper
bound.

So a condition on a time returns what it says, at both ends of the range as everywhere else
(`Index.returns_by_time`), and an item without a date is returned by no such condition.
-/

namespace LiveSearch

/-! ### The day of a time -/

/-- The day of a time, counted from the beginning of 1970. -/
def dayNumber (time : UInt64) : Nat :=
  time.toNat / secondsPerDay.toNat

theorem toNat_secondsPerDay : secondsPerDay.toNat = 86400 := rfl

/-- A time is a word of sixty-four bits. -/
theorem toNat_lt_wordLimit (time : UInt64) : time.toNat < Text.Decimal.wordLimit :=
  time.toNat_lt

/-- What is taken away from a time is not more than the time. -/
theorem toNat_dayStart (time : UInt64) :
    (dayStart time).toNat + time.toNat % secondsPerDay.toNat = time.toNat := by
  have hle : time % secondsPerDay ≤ time := by
    rw [UInt64.le_iff_toNat_le, UInt64.toNat_mod]
    exact Nat.mod_le _ _
  have hmod := Nat.mod_le time.toNat secondsPerDay.toNat
  rw [dayStart, UInt64.toNat_sub_of_le _ _ hle, UInt64.toNat_mod]
  omega

/-- **A sum is found if it fits**, and then it is the sum. -/
theorem sum?_eq_some_iff {a b c : UInt64} : sum? a b = some c ↔ c.toNat = a.toNat + b.toNat := by
  have hc := toNat_lt_wordLimit c
  rw [sum?]
  split
  · next hfits =>
    have hsum : (a + b).toNat = a.toNat + b.toNat :=
      (UInt64.toNat_add a b).trans (Nat.mod_eq_of_lt hfits)
    rw [Option.some_inj, ← UInt64.toNat_inj, hsum]
    exact eq_comm
  · next hlarge =>
    refine iff_of_false (by simp) ?_
    omega

theorem le_of_sum?_eq_none {a b : UInt64} (h : sum? a b = none) :
    Text.Decimal.wordLimit ≤ a.toNat + b.toNat := by
  rw [sum?] at h
  split at h
  · cases h
  · next hlarge => exact Nat.not_lt.mp hlarge

/-! ### Ranges -/

theorem inRange_before {time t : UInt64} :
    inRange .unbounded (.excluded time) t = true ↔ t.toNat < time.toNat := by
  simp only [inRange, Bound.isBelow, Bound.isAbove, Bool.true_and, decide_eq_true_iff]
  exact UInt64.lt_iff_toNat_lt

theorem inRange_after {time t : UInt64} :
    inRange (.excluded time) .unbounded t = true ↔ time.toNat < t.toNat := by
  simp only [inRange, Bound.isBelow, Bound.isAbove, Bool.and_true, decide_eq_true_iff]
  exact UInt64.lt_iff_toNat_lt

/-- **The range of a day** holds the times of this day, also on the last one, which has no end. -/
theorem inRange_day {time t : UInt64} :
    inRange (.included (dayStart time)) ((dayEnd? time).elim .unbounded .excluded) t = true ↔
      dayNumber t = dayNumber time := by
  have hstart := toNat_dayStart time
  have ht := toNat_lt_wordLimit t
  rw [inRange, Bool.and_eq_true, Bound.isBelow, decide_eq_true_iff, UInt64.le_iff_toNat_le,
    dayNumber, dayNumber]
  cases hend : dayEnd? time with
  | some limit =>
    have hlimit := sum?_eq_some_iff.mp hend
    rw [Option.elim_some, Bound.isAbove, decide_eq_true_iff, UInt64.lt_iff_toNat_lt]
    rw [toNat_secondsPerDay] at *
    omega
  | none =>
    have hlast := le_of_sum?_eq_none hend
    rw [Option.elim_none, Bound.isAbove, eq_self, and_true]
    rw [toNat_secondsPerDay] at *
    omega

/-! ### What conditions on times return -/

/-- The field of a condition on a time. -/
def TimeField.field : TimeField → Field
  | .published => .published
  | .received => .received

/-- The time of an item in a field, if it has one. -/
def Item.timeOf? (item : Item) : TimeField → Option UInt64
  | .published => item.published
  | .received => some item.received

/-- A condition on a time. -/
def Condition.onTime (field : TimeField) (specifier : Specifier) (time : UInt64) : Condition :=
  { field := field.field, specifier, value := .date time }

namespace Index

variable {specifier : Specifier} {lower upper : Bound} {field : TimeField} {time : UInt64}

theorem timeOf?_ofItem (item : Item) (field : TimeField) :
    (Document.ofItem item).timeOf? field = item.timeOf? field := by
  cases field <;> rfl

/-- A condition that compares by a range returns the items with a time in the range. -/
theorem returns_between {P : UInt64 → Prop} (acts : List Act)
    (hq : Query.ofTime field specifier time = .between field lower upper)
    (hP : ∀ t, inRange lower upper t = true ↔ P t) :
    Returns acts (.onTime field specifier time) fun item =>
      ∃ t, item.timeOf? field = some t ∧ P t := by
  have hcompiled : Query.ofCondition (.onTime field specifier time) =
      .ok (.between field lower upper) := by
    rw [← hq]
    cases field <;> rfl
  refine returns_of_query rfl hcompiled fun item => ?_
  rw [Query.finds, timeOf?_ofItem, Option.any_eq_true]
  simp only [hP]

/-- **Conditions on times return what they say**, over all times of sixty-four bits: *is* returns the
items with a time on the same day, *is before* and *is after* those with a smaller and with a greater
time, and an item without a time is returned by none of them. The bounds of the day are found without
an overflow: what is taken away from the time is its part of the day, and there is an end of the day
just if the sum fits into sixty-four bits, and then the end is the sum. -/
theorem returns_by_time (acts : List Act) (field : TimeField) (time : UInt64) :
    Returns acts (.onTime field .is time)
        (fun item => ∃ t, item.timeOf? field = some t ∧ t.toNat / 86400 = time.toNat / 86400) ∧
      Returns acts (.onTime field .isBefore time)
        (fun item => ∃ t, item.timeOf? field = some t ∧ t.toNat < time.toNat) ∧
      Returns acts (.onTime field .isAfter time)
        (fun item => ∃ t, item.timeOf? field = some t ∧ time.toNat < t.toNat) ∧
      (dayStart time).toNat + time.toNat % 86400 = time.toNat ∧
      ∀ limit, dayEnd? time = some limit ↔ limit.toNat = (dayStart time).toNat + 86400 := by
  refine ⟨?_, ?_, ?_, toNat_dayStart time, fun limit => sum?_eq_some_iff⟩
  · exact returns_between acts rfl fun t => inRange_day
  · exact returns_between acts rfl fun t => inRange_before
  · exact returns_between acts rfl fun t => inRange_after

/-- The last day has a first second and no end. -/
example : dayStart 0xffffffffffffffff = 0xffffffffffff9d80 ∧ dayEnd? 0xffffffffffffffff = none := by
  decide

end Index

end LiveSearch
