import LiveSearch.Proofs.Text.Numerals
import Mathlib.Data.List.Induction

/-!
# What decimal digits denote

A run of digits denotes a number (`Decimal.Denotes`), leading zeros or not, and there is a number
for every run. Counts and times are typed as such a run, at least one digit long, behind one plus
sign or behind none (`Decimal.Written`); **what is read is exactly what is written in this way**, as
far as it fits into sixty-four bits (`Decimal.parseWord?_eq_some_iff`).
-/

namespace LiveSearch.Text.Decimal

variable {cs : List Char} {c : Char} {n d : Nat}

/-- **Digits denote a number**: one more digit makes it ten times as large, and adds its value. -/
inductive Denotes : List Char → Nat → Prop where
  | nil : Denotes [] 0
  | snoc {cs : List Char} {n d : Nat} (h : Denotes cs n) (hd : d < 10) :
    Denotes (cs ++ [digit d]) (10 * n + d)

/-- A digit is the character of its value. -/
theorem eq_digit (h : c.isDigit = true) : c.toNat - 48 < 10 ∧ digit (c.toNat - 48) = c := by
  simp only [Char.isDigit, Bool.and_eq_true, decide_eq_true_iff, ge_iff_le, UInt32.le_iff_toNat_le]
    at h
  have hlow : 48 ≤ c.toNat := h.1
  have hhigh : c.toNat ≤ 57 := h.2
  refine ⟨by omega, ?_⟩
  rw [digit, Nat.add_sub_cancel' hlow, Char.ofNat_toNat]

/-- What is denoted is what is computed. -/
theorem denotes_iff : Denotes cs n ↔ (∀ c ∈ cs, c.isDigit = true) ∧ value cs = n := by
  constructor
  · intro h
    induction h with
    | nil => exact ⟨fun c hc => absurd hc List.not_mem_nil, rfl⟩
    | snoc h hd ih =>
      refine ⟨fun c hc => ?_, by rw [value_append, ih.2, toNat_digit hd]⟩
      rcases List.mem_append.mp hc with hc | hc
      · exact ih.1 c hc
      · rw [List.mem_singleton.mp hc]
        exact isDigit_digit hd
  · rintro ⟨hdigits, rfl⟩
    induction cs using List.reverseRecOn with
    | nil => exact .nil
    | append_singleton cs c ih =>
      obtain ⟨hlt, hdigit⟩ := eq_digit (hdigits c (by simp))
      have hbefore := ih fun c' hc' => hdigits c' (List.mem_append_left _ hc')
      have hall := hbefore.snoc hlt
      rwa [hdigit, ← value_append] at hall

theorem Denotes.isDigit (h : Denotes cs n) (hc : c ∈ cs) : c.isDigit = true :=
  (denotes_iff.mp h).1 c hc

theorem parse?_eq_some_iff : parse? cs = some n ↔ cs ≠ [] ∧ Denotes cs n := by
  rw [parse?, denotes_iff]
  cases cs with
  | nil => simp
  | cons c cs => simp [and_assoc]

/-- **A number is written** in digits, at least one, behind a plus sign or behind none. -/
def Written (cs : List Char) (n : Nat) : Prop :=
  ∃ ds, (cs = ds ∨ cs = '+' :: ds) ∧ ds ≠ [] ∧ Denotes ds n

/-- The sign is what is taken off. -/
theorem eq_or_eq_withoutPlus (cs : List Char) :
    cs = withoutPlus cs ∨ cs = '+' :: withoutPlus cs := by
  cases cs with
  | nil => exact Or.inl rfl
  | cons c rest =>
    by_cases hc : c = '+'
    · subst hc
      exact Or.inr rfl
    · exact Or.inl (withoutPlus.eq_2 _ fun rest' heq => hc (List.cons.inj heq).1).symm

/-- **What is read is what is written**, if it fits into sixty-four bits. -/
theorem parseWord?_eq_some_iff : parseWord? cs = some n ↔ Written cs n ∧ n < wordLimit := by
  rw [parseWord?, Option.filter_eq_some_iff, decide_eq_true_iff, parse?_eq_some_iff, Written]
  refine and_congr_left fun _ => ?_
  constructor
  · rintro ⟨hne, hdenotes⟩
    exact ⟨withoutPlus cs, eq_or_eq_withoutPlus cs, hne, hdenotes⟩
  · rintro ⟨ds, rfl | rfl, hne, hdenotes⟩
    -- digits do not begin with a sign that could be taken off
    · have hplus : withoutPlus cs = cs := by
        refine withoutPlus.eq_2 cs fun rest heq => ?_
        have hdigit := hdenotes.isDigit (heq ▸ List.mem_cons_self)
        exact absurd hdigit (by decide)
      rw [hplus]
      exact ⟨hne, hdenotes⟩
    · exact ⟨hne, hdenotes⟩

end LiveSearch.Text.Decimal
