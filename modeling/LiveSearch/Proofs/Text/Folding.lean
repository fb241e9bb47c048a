import LiveSearch.Index.Compile
import Mathlib.Data.List.Basic

/-!
# Two ways to fold a text

A typed text is trimmed and put in lower case as a whole; the value that it is compared with is put in
lower case character by character, with all its blanks. Both have the same length in characters but
for the blanks that trimming takes away, and they differ in one letter: a capital sigma that ends a
word becomes the final form in the one and the ordinary form in the other
(`lowercase_eq_lowerEach_iff`).

So **a text is folded into the form of its own value** exactly if it neither begins nor ends with a
blank and no word in it ends in a capital sigma (`Query.folded_eq_iff`).
-/

namespace LiveSearch

namespace Text

variable {cs before : List Char}

/-! ### A sigma that ends a word -/

/-- **Some word ends in a capital sigma**: a letter comes before it, and none comes after it. -/
def EndsInSigma (cs : List Char) : Prop :=
  ∃ before after, cs = before ++ 'Σ' :: after ∧ startsCased before.reverse = true ∧
    startsCased after = false

/-- No sigma in a text ends a word, if the characters `before` it count as well. -/
def NoFinalSigma (before cs : List Char) : Prop :=
  ∀ first rest, cs = first ++ 'Σ' :: rest →
    ¬(startsCased (first.reverse ++ before) = true ∧ startsCased rest = false)

theorem noFinalSigma_nil_iff : NoFinalSigma [] cs ↔ ¬EndsInSigma cs := by
  simp only [NoFinalSigma, EndsInSigma, List.append_nil, not_exists, not_and]

theorem noFinalSigma_cons_iff {c : Char} :
    NoFinalSigma before (c :: cs) ↔
      (c = 'Σ' → ¬(startsCased before = true ∧ startsCased cs = false)) ∧
        NoFinalSigma (c :: before) cs := by
  constructor
  · intro h
    refine ⟨fun hc => h [] cs (by rw [hc]; rfl), fun first rest hcs => ?_⟩
    have hlater := h (c :: first) rest (by rw [hcs]; rfl)
    rwa [List.reverse_cons, List.append_assoc] at hlater
  · rintro ⟨hhead, htail⟩ first rest hcs
    cases first with
    | nil =>
      obtain ⟨rfl, rfl⟩ := List.cons.inj hcs
      exact hhead rfl
    | cons d first =>
      obtain ⟨rfl, hrest⟩ := List.cons.inj hcs
      rw [List.reverse_cons, List.append_assoc]
      exact htail first rest hrest

/-! ### Lower case of a whole text and of its characters -/

theorem lowerEach_cons (c : Char) (cs : List Char) :
    lowerEach (c :: cs) = lowerChar c ++ lowerEach cs :=
  List.flatMap_cons

theorem lowerChar_sigma : lowerChar 'Σ' = ['σ'] := by decide +kernel

/-- What a character of a text becomes, between the others. -/
def lowerWithin (before : List Char) (c : Char) (after : List Char) : List Char :=
  if c = 'Σ' then [lowerSigma before after] else lowerChar c

theorem length_lowerWithin (before : List Char) (c : Char) (after : List Char) :
    (lowerWithin before c after).length = (lowerChar c).length := by
  rw [lowerWithin]
  split
  · next h => rw [h, lowerChar_sigma, List.length_singleton, List.length_singleton]
  · rfl

theorem lowerWithin_eq_iff {c : Char} {after : List Char} :
    lowerWithin before c after = lowerChar c ↔
      (c = 'Σ' → ¬(startsCased before = true ∧ startsCased after = false)) := by
  rw [lowerWithin]
  split
  · next h =>
    have hdistinct : 'ς' ≠ 'σ' := by decide
    rw [h, lowerChar_sigma, List.cons.injEq, lowerSigma]
    cases startsCased before <;> cases startsCased after <;> simp [hdistinct]
  · next h => simp [h]

theorem lowercaseFrom_cons (before : List Char) (c : Char) (cs : List Char) :
    lowercaseFrom before (c :: cs) = lowerWithin before c cs ++ lowercaseFrom (c :: before) cs := rfl

/-- **The two ways agree** just if no sigma ends a word. -/
theorem lowercaseFrom_eq_lowerEach_iff :
    lowercaseFrom before cs = lowerEach cs ↔ NoFinalSigma before cs := by
  induction cs generalizing before with
  | nil => simp [lowercaseFrom, lowerEach, NoFinalSigma]
  | cons c cs ih =>
    rw [noFinalSigma_cons_iff, ← ih, ← lowerWithin_eq_iff, lowercaseFrom_cons, lowerEach_cons]
    constructor
    · intro h
      exact List.append_inj h (length_lowerWithin before c cs)
    · rintro ⟨hhead, htail⟩
      rw [hhead, htail]

theorem lowercase_eq_lowerEach_iff : lowercase cs = lowerEach cs ↔ ¬EndsInSigma cs :=
  lowercaseFrom_eq_lowerEach_iff.trans noFinalSigma_nil_iff

/-! ### Lengths -/

theorem length_lowercaseFrom (before cs : List Char) :
    (lowercaseFrom before cs).length = (lowerEach cs).length := by
  induction cs generalizing before with
  | nil => rfl
  | cons c cs ih =>
    rw [lowercaseFrom_cons, List.length_append, length_lowerWithin, ih, lowerEach_cons,
      List.length_append]

theorem lowerEach_append (as bs : List Char) :
    lowerEach (as ++ bs) = lowerEach as ++ lowerEach bs :=
  List.flatMap_append

/-- No character is lost in lower case. -/
theorem length_le_length_lowerEach (cs : List Char) : cs.length ≤ (lowerEach cs).length := by
  induction cs with
  | nil => exact Nat.le_refl 0
  | cons c cs ih =>
    have hchar : 1 ≤ (lowerChar c).length := by
      rw [lowerChar]
      split <;> simp
    rw [lowerEach_cons, List.length_append, List.length_cons]
    omega

/-- Trimming takes a beginning and an end away. -/
theorem exists_eq_append_trimChars (cs : List Char) :
    ∃ start rest, cs = start ++ trimChars cs ++ rest := by
  obtain ⟨start, hstart⟩ := List.dropWhile_suffix isBlank (l := cs)
  obtain ⟨rest, hrest⟩ := List.dropWhile_suffix isBlank (l := (trimStart cs).reverse)
  have hend : trimStart cs = trimChars cs ++ rest.reverse := by
    rw [← List.reverse_reverse (trimStart cs), ← hrest, List.reverse_append]
    rfl
  refine ⟨start, rest.reverse, ?_⟩
  rw [List.append_assoc, ← hend]
  exact hstart.symm

end Text

namespace Query

open Text

/-- **A text is folded into the form of its own value** exactly if nothing is trimmed from it and no
word in it ends in a capital sigma. -/
theorem folded_eq_iff (s : String) :
    folded s = lowerEach s.toList ↔ trimChars s.toList = s.toList ∧ ¬EndsInSigma s.toList := by
  rw [folded]
  constructor
  · intro h
    obtain ⟨start, rest, hs⟩ := exists_eq_append_trimChars s.toList
    -- what is trimmed away would make the value longer
    have hlength : (lowerEach (trimChars s.toList)).length = (lowerEach s.toList).length := by
      rw [← h]
      exact (length_lowercaseFrom [] _).symm
    have hparts := congrArg (fun cs => (lowerEach cs).length) hs
    simp only [lowerEach_append, List.length_append] at hparts
    have hstart := length_le_length_lowerEach start
    have hrest := length_le_length_lowerEach rest
    have hnil : start = [] ∧ rest = [] :=
      ⟨List.eq_nil_of_length_eq_zero (by omega), List.eq_nil_of_length_eq_zero (by omega)⟩
    have htrim : trimChars s.toList = s.toList := by
      rw [hnil.1, hnil.2, List.nil_append, List.append_nil] at hs
      exact hs.symm
    rw [htrim] at h
    exact ⟨htrim, lowercase_eq_lowerEach_iff.mp h⟩
  · rintro ⟨htrim, hsigma⟩
    rw [htrim]
    exact lowercase_eq_lowerEach_iff.mpr hsigma

end Query

end LiveSearch
