import LiveSearch.Text.Decimal
import LiveSearch.Text.Hex
import Mathlib.Data.Nat.Notation
import Mathlib.Tactic.Ring

/-!
# Numerals are read back

The decimal numeral of a number denotes the number (`Decimal.value_digits`), and it has the shape
that readers ask for: it is not empty, it consists of digits, and it has no leading zero. The lowest
`count` hexadecimal digits of a number denote its residue (`Hex.parse?_fixed`).
-/

namespace LiveSearch.Text

/-! ### Decimal numerals -/

namespace Decimal

theorem isDigit_digit {d : Nat} (h : d < 10) : (digit d).isDigit = true := by
  have hall : ∀ d < 10, (digit d).isDigit = true := by decide
  exact hall d h

theorem toNat_digit {d : Nat} (h : d < 10) : (digit d).toNat - 48 = d := by
  have hall : ∀ d < 10, (digit d).toNat - 48 = d := by decide
  exact hall d h

theorem digit_ne_zero {d : Nat} (h : d < 10) (hd : d ≠ 0) : digit d ≠ '0' := by
  have hall : ∀ d < 10, d ≠ 0 → digit d ≠ '0' := by decide
  exact hall d h hd

theorem digits_of_lt {n : Nat} (h : n < 10) : digits n = [digit n] := by
  rw [digits, if_pos h]

theorem digits_of_ge {n : Nat} (h : 10 ≤ n) : digits n = digits (n / 10) ++ [digit (n % 10)] := by
  rw [digits, if_neg (Nat.not_lt.mpr h)]

theorem value_append (xs : List Char) (c : Char) :
    value (xs ++ [c]) = 10 * value xs + (c.toNat - 48) := by
  rw [value, List.foldl_append]
  rfl

/-- **The numeral of a number denotes the number.** -/
theorem value_digits (n : Nat) : value (digits n) = n := by
  induction n using Nat.strong_induction_on with
  | _ n ih =>
    rcases Nat.lt_or_ge n 10 with h | h
    · rw [digits_of_lt h]
      have hd := toNat_digit h
      simpa [value] using hd
    · rw [digits_of_ge h, value_append, ih (n / 10) (by omega), toNat_digit (by omega)]
      omega

/-- A numeral consists of digits. -/
theorem isDigit_of_mem_digits {n : Nat} {c : Char} (hc : c ∈ digits n) : c.isDigit = true := by
  induction n using Nat.strong_induction_on generalizing c with
  | _ n ih =>
    rcases Nat.lt_or_ge n 10 with h | h
    · rw [digits_of_lt h, List.mem_singleton] at hc
      rw [hc]
      exact isDigit_digit h
    · rw [digits_of_ge h, List.mem_append, List.mem_singleton] at hc
      rcases hc with hc | rfl
      · exact ih (n / 10) (by omega) hc
      · exact isDigit_digit (by omega)

/-- A numeral has a first digit, which is zero only for zero. -/
theorem digits_eq_cons (n : Nat) :
    ∃ c rest, digits n = c :: rest ∧ c.isDigit = true ∧ (n ≠ 0 → c ≠ '0') := by
  induction n using Nat.strong_induction_on with
  | _ n ih =>
    rcases Nat.lt_or_ge n 10 with h | h
    · exact ⟨digit n, [], digits_of_lt h, isDigit_digit h, digit_ne_zero h⟩
    · obtain ⟨c, rest, heq, hc, hzero⟩ := ih (n / 10) (by omega)
      refine ⟨c, rest ++ [digit (n % 10)], ?_, hc, fun _ => hzero (by omega)⟩
      rw [digits_of_ge h, heq, List.cons_append]

/-- **The numeral of a number of at most sixty-four bits is read as the number.** -/
theorem parseWord?_digits {n : Nat} (h : n < wordLimit) : parseWord? (digits n) = some n := by
  obtain ⟨c, rest, heq, hc, -⟩ := digits_eq_cons n
  have hplus : withoutPlus (digits n) = digits n := by
    rw [heq, withoutPlus]
    intro rest' hcons
    rw [(List.cons.inj hcons).1] at hc
    exact absurd hc (by decide)
  have hall : (digits n).all Char.isDigit = true := List.all_eq_true.mpr fun c hmem =>
    isDigit_of_mem_digits hmem
  have hne : (digits n).isEmpty = false := by rw [heq, List.isEmpty_cons]
  rw [parseWord?, hplus, parse?, hne, hall, value_digits]
  exact Option.filter_some_pos (decide_eq_true h)

end Decimal

/-! ### Hexadecimal numerals -/

namespace Hex

theorem digitValue?_digit {d : Nat} (h : d < 16) : digitValue? (digit d) = some d := by
  have hall : ∀ d < 16, digitValue? (digit d) = some d := by decide
  exact hall d h

theorem parseFrom?_append (n : Nat) (xs ys : List Char) :
    parseFrom? n (xs ++ ys) = (parseFrom? n xs).bind fun m => parseFrom? m ys := by
  induction xs generalizing n with
  | nil => rfl
  | cons c xs ih =>
    rw [List.cons_append, parseFrom?, parseFrom?]
    cases digitValue? c with
    | none => rfl
    | some d => exact ih (16 * n + d)

theorem parseFrom?_fixed (count n m : Nat) :
    parseFrom? m (fixed count n) = some (16 ^ count * m + n % 16 ^ count) := by
  induction count generalizing n with
  | zero => simp [fixed, parseFrom?, Nat.mod_one]
  | succ count ih =>
    have hmod : n % 16 ^ (count + 1) = 16 * (n / 16 % 16 ^ count) + n % 16 := by
      rw [Nat.pow_succ', Nat.mod_mul, Nat.add_comm]
    have hdigit : digitValue? (digit (n % 16)) = some (n % 16) :=
      digitValue?_digit (Nat.mod_lt _ (by decide))
    rw [fixed, parseFrom?_append, ih, Option.bind_some, parseFrom?, hdigit, Option.bind_some,
      parseFrom?, hmod]
    congr 1
    ring

/-- **The lowest digits of a number denote its residue.** -/
theorem parse?_fixed (count n : Nat) :
    parse? (fixed (count + 1) n) = some (n % 16 ^ (count + 1)) := by
  have hne : (fixed (count + 1) n).isEmpty = false := by simp [fixed]
  rw [parse?, hne, if_neg Bool.false_ne_true, parseFrom?_fixed, Nat.mul_zero, Nat.zero_add]

theorem fixed_four (n : Nat) :
    fixed 4 n = [digit (n / 16 / 16 / 16 % 16), digit (n / 16 / 16 % 16), digit (n / 16 % 16),
      digit (n % 16)] := rfl

end Hex

end LiveSearch.Text
