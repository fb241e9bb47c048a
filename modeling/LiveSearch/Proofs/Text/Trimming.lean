import LiveSearch.Proofs.Text.Numerals
import LiveSearch.Text.Blank
import Mathlib.Data.List.Infix

/-!
# Texts without blanks at their ends

A text that has been trimmed neither begins nor ends with a blank, and such a text is left as it is
(`trimChars_eq_self`). So trimming twice is trimming once, and a numeral is not changed by it. What
is left is the only text without blanks at its ends that the text becomes when the blanks around it
are taken off (`trimmed_iff`).
-/

namespace LiveSearch.Text

variable {cs : List Char}

/-- The text is not changed if it neither begins nor ends with a blank. -/
theorem trimChars_eq_self (hfirst : ∀ c ∈ cs.head?, isBlank c = false)
    (hlast : ∀ c ∈ cs.getLast?, isBlank c = false) : trimChars cs = cs := by
  have hdrop : ∀ ds : List Char, (∀ c ∈ ds.head?, isBlank c = false) →
      ds.dropWhile isBlank = ds := by
    intro ds hds
    cases ds with
    | nil => rfl
    | cons c ds => exact List.dropWhile_cons_of_neg (by simpa using hds c rfl)
  rw [trimChars, trimStart, hdrop cs hfirst, trimEnd, hdrop cs.reverse, List.reverse_reverse]
  rw [List.head?_reverse]
  exact hlast

/-- What is left when blanks are dropped does not begin with one. -/
theorem isBlank_head?_dropWhile (cs : List Char) :
    ∀ c ∈ (cs.dropWhile isBlank).head?, isBlank c = false := by
  intro c hc
  have hnot := List.head?_dropWhile_not isBlank cs
  rw [Option.mem_def.mp hc] at hnot
  exact hnot

/-- A trimmed text does not end with a blank. -/
theorem isBlank_getLast?_trimChars (cs : List Char) :
    ∀ c ∈ (trimChars cs).getLast?, isBlank c = false := by
  rw [trimChars, trimEnd, List.getLast?_reverse]
  exact isBlank_head?_dropWhile _

/-- A trimmed text does not begin with a blank. -/
theorem isBlank_head?_trimChars (cs : List Char) :
    ∀ c ∈ (trimChars cs).head?, isBlank c = false := by
  have hprefix : trimChars cs <+: trimStart cs := by
    rw [trimChars, trimEnd, ← List.reverse_suffix, List.reverse_reverse]
    exact List.dropWhile_suffix isBlank
  obtain ⟨rest, hrest⟩ := hprefix
  intro c hc
  refine isBlank_head?_dropWhile cs c ?_
  rw [← trimStart, ← hrest]
  exact List.mem_head?_append_of_mem_head? hc

/-- **Trimming twice is trimming once.** -/
theorem trimChars_trimChars (cs : List Char) : trimChars (trimChars cs) = trimChars cs :=
  trimChars_eq_self (isBlank_head?_trimChars cs) (isBlank_getLast?_trimChars cs)

theorem toList_trim (s : String) : (trim s).toList = trimChars s.toList :=
  String.toList_ofList

theorem trim_trim (s : String) : trim (trim s) = trim s := by
  rw [trim, toList_trim, trimChars_trimChars, trim]

/-! ### What is left -/

/-- **A text is left of another one** when the blanks around it are taken off. -/
structure Trimmed (cs text : List Char) : Prop where
  /-- There are blanks around it, and nothing else. -/
  around : ∃ before after, (∀ c ∈ before, isBlank c = true) ∧ (∀ c ∈ after, isBlank c = true) ∧
    cs = before ++ text ++ after
  /-- It does not begin with a blank. -/
  first : ∀ c ∈ text.head?, isBlank c = false
  /-- It does not end with one. -/
  last : ∀ c ∈ text.getLast?, isBlank c = false

theorem trimmed_trimChars (cs : List Char) : Trimmed cs (trimChars cs) := by
  have htaken : ∀ ds : List Char, ∀ c ∈ ds.takeWhile isBlank, isBlank c = true := fun ds =>
    List.all_eq_true.mp List.all_takeWhile
  refine ⟨⟨cs.takeWhile isBlank, ((trimStart cs).reverse.takeWhile isBlank).reverse, htaken cs,
    fun c hc => htaken _ c (List.mem_reverse.mp hc), ?_⟩, isBlank_head?_trimChars cs,
    isBlank_getLast?_trimChars cs⟩
  rw [List.append_assoc, trimChars, trimEnd, ← List.reverse_append, List.takeWhile_append_dropWhile,
    List.reverse_reverse, trimStart, List.takeWhile_append_dropWhile]

/-- **There is one text that is left**, the one that trimming gives. -/
theorem trimmed_iff {text : List Char} : Trimmed cs text ↔ text = trimChars cs := by
  constructor
  · rintro ⟨⟨before, after, hbefore, hafter, rfl⟩, hfirst, hlast⟩
    have hreverse : ∀ c ∈ after.reverse, isBlank c = true := fun c hc =>
      hafter c (List.mem_reverse.mp hc)
    rw [List.append_assoc, trimChars, trimStart, List.dropWhile_append_of_pos hbefore]
    cases text with
    | nil =>
      rw [List.nil_append, ← List.append_nil after, List.dropWhile_append_of_pos hafter]
      rfl
    | cons c rest =>
      have hself := trimChars_eq_self hfirst hlast
      have hdrop : ∀ ds, (c :: ds).dropWhile isBlank = c :: ds := fun ds =>
        List.dropWhile_cons_of_neg (by simpa using hfirst c rfl)
      rw [trimChars, trimStart, hdrop] at hself
      rw [List.cons_append, hdrop, ← List.cons_append, trimEnd, List.reverse_append,
        List.dropWhile_append_of_pos hreverse]
      exact hself.symm
  · rintro rfl
    exact trimmed_trimChars cs

/-! ### Numerals -/

/-- A digit is no blank. -/
theorem isBlank_of_isDigit {c : Char} (h : c.isDigit = true) : isBlank c = false := by
  simp only [Char.isDigit, Bool.and_eq_true, decide_eq_true_iff, ge_iff_le, UInt32.le_iff_toNat_le]
    at h
  have hlow : 48 ≤ c.toNat := h.1
  have hhigh : c.toNat ≤ 57 := h.2
  simp only [isBlank, Bool.or_eq_false_iff, Bool.and_eq_false_iff, decide_eq_false_iff_not]
  omega

/-- A numeral is not changed by trimming. -/
theorem trimChars_digits (n : Nat) : trimChars (Decimal.digits n) = Decimal.digits n := by
  refine trimChars_eq_self (fun c hc => ?_) fun c hc => ?_
  · exact isBlank_of_isDigit (Decimal.isDigit_of_mem_digits (List.mem_of_head? hc))
  · exact isBlank_of_isDigit (Decimal.isDigit_of_mem_digits (List.mem_of_getLast? hc))

end LiveSearch.Text
