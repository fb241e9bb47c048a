import LiveSearch.Proofs.Text.Folding
import LiveSearch.Proofs.Text.Numerals
import LiveSearch.Text.ByteLength
import Mathlib.Data.List.Induction

/-!
# What a run of hexadecimal digits denotes

A numeral is read from left to right, and its number grows by a digit at a time: what has been read
is worth sixteen times as much, and the new digit is added (`Hex.Denotes`). The letters among the
digits may be of either case.

A numeral of `count` digits is the way to write its number in `count` digits, up to the case of its
letters (`Hex.Denotes.lowercase_eq`). So to compare texts is to compare numbers: **one numeral begins
another one** exactly if its number is what is left of the other number when the last digits are cut
off (`Hex.fixed_isPrefix_iff`).
-/

namespace LiveSearch.Text

namespace Hex

variable {cs : List Char} {n : Nat}

/-! ### Digits -/

/-- The hexadecimal digits and what they are worth. -/
def digitTable : List (Char × Nat) :=
  [('0', 0), ('1', 1), ('2', 2), ('3', 3), ('4', 4), ('5', 5), ('6', 6), ('7', 7), ('8', 8),
    ('9', 9), ('a', 10), ('b', 11), ('c', 12), ('d', 13), ('e', 14), ('f', 15), ('A', 10),
    ('B', 11), ('C', 12), ('D', 13), ('E', 14), ('F', 15)]

theorem digitValue?_of_mem : ∀ e ∈ digitTable, digitValue? e.1 = some e.2 := by decide

theorem lt_of_mem_digitTable : ∀ e ∈ digitTable, e.2 < 16 := by decide

theorem lowerChar_of_mem : ∀ e ∈ digitTable, lowerChar e.1 = [digit e.2] := by decide +kernel

/-- **The characters that are read as digits** are those of the table. -/
theorem digitValue?_eq_some_iff {c : Char} {d : Nat} :
    digitValue? c = some d ↔ (c, d) ∈ digitTable := by
  constructor
  · intro h
    -- no character behind the letters is a digit
    have hascii : c.toNat < 103 := by
      simp only [digitValue?, Char.le_def, UInt32.le_iff_toNat_le] at h
      simp only [Char.toNat]
      split at h
      · next hdigit => exact Nat.lt_of_le_of_lt hdigit.2 (by decide)
      · split at h
        · next hsmall => exact Nat.lt_of_le_of_lt hsmall.2 (by decide)
        · split at h
          · next hcapital => exact Nat.lt_of_le_of_lt hcapital.2 (by decide)
          · cases h
    have hall : ∀ n < 103,
        (digitValue? (Char.ofNat n)).all fun d => (Char.ofNat n, d) ∈ digitTable := by
      decide
    have hmem := hall c.toNat hascii
    rw [Char.ofNat_toNat, h] at hmem
    exact of_decide_eq_true hmem
  · exact digitValue?_of_mem (c, d)

/-! ### Numerals -/

/-- **A run of digits denotes a number.** -/
inductive Denotes : List Char → Nat → Prop where
  /-- Nothing is worth zero. -/
  | nil : Denotes [] 0
  /-- What stands before a digit is worth sixteen times as much as it would be alone. -/
  | snoc {cs : List Char} {n : Nat} {c : Char} {d : Nat} (hbefore : Denotes cs n)
      (hdigit : (c, d) ∈ digitTable) : Denotes (cs ++ [c]) (16 * n + d)

/-- **A run of digits is read as the number that it denotes.** -/
theorem denotes_iff : Denotes cs n ↔ parseFrom? 0 cs = some n := by
  constructor
  · intro h
    induction h with
    | nil => rfl
    | snoc hbefore hdigit ih =>
      rw [parseFrom?_append, ih, Option.bind_some, parseFrom?, digitValue?_eq_some_iff.mpr hdigit]
      rfl
  · intro h
    induction cs using List.reverseRecOn generalizing n with
    | nil =>
      obtain rfl : 0 = n := Option.some.inj h
      exact .nil
    | append_singleton cs c ih =>
      rw [parseFrom?_append] at h
      obtain ⟨m, hm, hlast⟩ := Option.bind_eq_some_iff.mp h
      obtain ⟨d, hd, hn⟩ := Option.bind_eq_some_iff.mp hlast
      obtain rfl : 16 * m + d = n := Option.some.inj hn
      exact .snoc (ih hm) (digitValue?_eq_some_iff.mp hd)

/-- A text without digits is no numeral, and all others are read as what they denote. -/
theorem parse?_eq_some_iff : parse? cs = some n ↔ cs ≠ [] ∧ Denotes cs n := by
  rw [denotes_iff, parse?]
  cases cs <;> simp

namespace Denotes

theorem lt (h : Denotes cs n) : n < 16 ^ cs.length := by
  induction h with
  | nil => exact Nat.one_pos
  | snoc hbefore hdigit ih =>
    have hd := lt_of_mem_digitTable _ hdigit
    rw [List.length_append, List.length_singleton, Nat.pow_succ]
    omega

/-- Every character of a numeral is a digit. -/
theorem exists_of_mem (h : Denotes cs n) {c : Char} (hc : c ∈ cs) : ∃ d, (c, d) ∈ digitTable := by
  induction h with
  | nil => cases hc
  | snoc hbefore hdigit ih =>
    rcases List.mem_append.mp hc with hold | hnew
    · exact ih hold
    · exact ⟨_, List.mem_singleton.mp hnew ▸ hdigit⟩

/-- A character that is no digit is not in a numeral. -/
theorem not_mem (h : Denotes cs n) {c : Char} (hc : digitValue? c = none) : c ∉ cs := by
  intro hmem
  obtain ⟨d, hd⟩ := h.exists_of_mem hmem
  rw [digitValue?_of_mem _ hd] at hc
  cases hc

/-- A digit takes one byte. -/
theorem byteLength_eq (h : Denotes cs n) : byteLength cs = cs.length := by
  have hone : ∀ e ∈ digitTable, e.1.utf8Size = 1 := by decide
  have hsize : ∀ c ∈ cs, c.utf8Size = 1 := by
    intro c hc
    obtain ⟨d, hd⟩ := h.exists_of_mem hc
    exact hone _ hd
  clear h
  induction cs with
  | nil => rfl
  | cons c cs ih =>
    rw [byteLength, hsize c List.mem_cons_self,
      ih fun c' hc' => hsize c' (List.mem_cons_of_mem _ hc'),
      List.length_cons, Nat.add_comm]

theorem lowerEach_eq (h : Denotes cs n) : lowerEach cs = fixed cs.length n := by
  induction h with
  | nil => rfl
  | @snoc cs n c d hbefore hdigit ih =>
    have hd := lt_of_mem_digitTable _ hdigit
    have hrest : (16 * n + d) / 16 = n := by omega
    have hlast : (16 * n + d) % 16 = d := by omega
    have hlower : lowerEach [c] = [digit d] := by
      rw [lowerEach_cons, lowerChar_of_mem _ hdigit]
      rfl
    rw [lowerEach_append, ih, hlower, List.length_append, List.length_singleton, fixed, hrest,
      hlast]

/-- **A numeral in lower case is the written form of its number.** -/
theorem lowercase_eq (h : Denotes cs n) : lowercase cs = fixed cs.length n := by
  rw [← h.lowerEach_eq, lowercase_eq_lowerEach_iff]
  rintro ⟨before, after, rfl, -⟩
  -- a sigma is no digit
  exact h.not_mem (c := 'Σ') (by decide) (by simp)

end Denotes

/-! ### The written form of a number -/

theorem length_fixed (count n : Nat) : (fixed count n).length = count := by
  induction count generalizing n with
  | zero => rfl
  | succ count ih => rw [fixed, List.length_append, ih, List.length_singleton]

/-- The written form denotes the number, if it has room for it. -/
theorem denotes_fixed {count n : Nat} (h : n < 16 ^ count) : Denotes (fixed count n) n := by
  rw [denotes_iff, parseFrom?_fixed, Nat.mul_zero, Nat.zero_add, Nat.mod_eq_of_lt h]

/-- Numbers with the same written form are the same. -/
theorem fixed_inj {count m n : Nat} (hm : m < 16 ^ count) (hn : n < 16 ^ count) :
    fixed count m = fixed count n ↔ m = n := by
  refine ⟨fun h => ?_, congrArg _⟩
  have hsame := denotes_iff.mp (denotes_fixed hm)
  rw [h, denotes_iff.mp (denotes_fixed hn)] at hsame
  exact (Option.some.inj hsame).symm

/-- **The first digits are those of the number without the last ones.** -/
theorem fixed_add (count rest n : Nat) :
    fixed (count + rest) n = fixed count (n / 16 ^ rest) ++ fixed rest n := by
  induction rest generalizing n with
  | zero => rw [Nat.add_zero, Nat.pow_zero, Nat.div_one, fixed, List.append_nil]
  | succ rest ih =>
    rw [← Nat.add_assoc, fixed, ih, Nat.div_div_eq_div_mul, ← Nat.pow_succ', fixed,
      List.append_assoc]

theorem take_fixed {count total n : Nat} (h : count ≤ total) :
    (fixed total n).take count = fixed count (n / 16 ^ (total - count)) := by
  have hsplit := fixed_add count (total - count) n
  rw [Nat.add_sub_cancel' h] at hsplit
  rw [hsplit, List.take_left' (length_fixed _ _)]

/-- What is left of a number that has room has room in what is left. -/
theorem div_lt_pow {count total n : Nat} (h : count ≤ total) (hn : n < 16 ^ total) :
    n / 16 ^ (total - count) < 16 ^ count := by
  rw [Nat.div_lt_iff_lt_mul (Nat.pow_pos (by decide)), ← Nat.pow_add, Nat.add_sub_cancel' h]
  exact hn

/-- **A written form begins another one** exactly if its number is what is left of the other one
without its last digits. -/
theorem fixed_isPrefix_iff {count total m n : Nat} (h : count ≤ total) (hm : m < 16 ^ count)
    (hn : n < 16 ^ total) :
    fixed count m <+: fixed total n ↔ n / 16 ^ (total - count) = m := by
  rw [List.prefix_iff_eq_take, length_fixed, take_fixed h, fixed_inj hm (div_lt_pow h hn), eq_comm]

end Hex

end LiveSearch.Text
