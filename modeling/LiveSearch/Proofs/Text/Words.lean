import LiveSearch.Proofs.Reconcile.Tally
import LiveSearch.Proofs.Sorting.Order
import LiveSearch.Text.Blank
import LiveSearch.Text.Words

/-!
# The set of words of a text

A text is searched for by its words, and it is their set that counts: neither their order in the text
nor how often one of them occurs makes a difference, for **texts with the same words have the same
list of distinct words** (`distinctWords_congr`).

A blank text has no words (`words_of_isBlankText`), but a text without words need not be blank.
-/

namespace LiveSearch.Text

open Std

variable {s t : String} {w : Token}

/-! ### The order of words -/

/-- Words are ordered as the characters of texts are compared. -/
theorem tokenLe_eq_isLE (as bs : Token) : tokenLe as bs = (compareChars as bs).isLE := by
  induction as generalizing bs with
  | nil => cases bs <;> rfl
  | cons a as ih =>
    cases bs with
    | nil => rfl
    | cons b bs =>
      rw [tokenLe, compareChars, ih]
      rcases Nat.lt_trichotomy a.toNat b.toNat with h | h | h
      · simp [Nat.compare_eq_lt.mpr h, h]
      · simp [h]
      · simp [Nat.compare_eq_gt.mpr h, Nat.not_lt.mpr h.le, h.ne']

theorem eq_of_compareChars {as bs : Token} (h : compareChars as bs = .eq) : as = bs := by
  induction as generalizing bs with
  | nil =>
    cases bs with
    | nil => rfl
    | cons b bs => cases h
  | cons a as ih =>
    cases bs with
    | nil => cases h
    | cons b bs =>
      rw [compareChars, Ordering.then_eq_eq] at h
      rw [ih h.2, Char.toNat_inj.mp (Nat.compare_eq_eq.mp h.1)]

theorem tokenLe_trans (a b c : Token) (hab : tokenLe a b = true) (hbc : tokenLe b c = true) :
    tokenLe a c = true := by
  rw [tokenLe_eq_isLE] at *
  exact TransCmp.isLE_trans hab hbc

theorem tokenLe_total (a b : Token) : (tokenLe a b || tokenLe b a) = true := by
  have hswap : compareChars b a = (compareChars a b).swap := OrientedCmp.eq_swap
  rw [tokenLe_eq_isLE, tokenLe_eq_isLE, hswap]
  cases compareChars a b <;> rfl

/-- Words that may stand either way are the same. -/
theorem tokenLe_antisymm {a b : Token} (hab : tokenLe a b = true) (hba : tokenLe b a = true) :
    a = b := by
  have hswap : compareChars b a = (compareChars a b).swap := OrientedCmp.eq_swap
  rw [tokenLe_eq_isLE] at hab hba
  rw [hswap] at hba
  refine eq_of_compareChars ?_
  cases h : compareChars a b with
  | eq => rfl
  | lt =>
    rw [h] at hba
    cases hba
  | gt =>
    rw [h] at hab
    cases hab

/-! ### Distinct words -/

theorem mem_distinctWords : w ∈ distinctWords s ↔ w ∈ words s := by
  rw [distinctWords, List.mem_mergeSort, List.mem_eraseDups]

theorem distinctWords_eq_nil_iff : distinctWords s = [] ↔ words s = [] := by
  simp only [List.eq_nil_iff_forall_not_mem, mem_distinctWords]

/-- **The distinct words depend on the set of words only.** -/
theorem distinctWords_congr (h : ∀ w, w ∈ words s ↔ w ∈ words t) :
    distinctWords s = distinctWords t := by
  have hsame : (words s).eraseDups.Perm (words t).eraseDups := by
    rw [List.perm_ext_iff_of_nodup (nodup_eraseDups _) (nodup_eraseDups _)]
    intro w
    rw [List.mem_eraseDups, List.mem_eraseDups]
    exact h w
  have hperm : (distinctWords s).Perm (distinctWords t) :=
    (List.mergeSort_perm _ _).trans (hsame.trans (List.mergeSort_perm _ _).symm)
  exact hperm.eq_of_pairwise (fun a b _ _ hab hba => tokenLe_antisymm hab hba)
    (List.pairwise_mergeSort tokenLe_trans tokenLe_total _)
    (List.pairwise_mergeSort tokenLe_trans tokenLe_total _)

/-- The order of the words and a repetition make no difference. -/
example : distinctWords "feeds and Feed" = distinctWords "and feed" := by
  refine distinctWords_congr fun w => ?_
  have hs : words "feeds and Feed" = ["feed".toList, "and".toList, "feed".toList] := by
    decide +kernel
  have ht : words "and feed" = ["and".toList, "feed".toList] := by decide +kernel
  rw [hs, ht]
  simp [or_comm]

/-! ### Blank texts -/

/-- The code points of white space. -/
def blanks : List Nat :=
  [9, 10, 11, 12, 13, 0x20, 0x85, 0xa0, 0x1680, 0x2000, 0x2001, 0x2002, 0x2003, 0x2004, 0x2005,
    0x2006, 0x2007, 0x2008, 0x2009, 0x200a, 0x2028, 0x2029, 0x202f, 0x205f, 0x3000]

theorem toNat_mem_blanks {c : Char} (h : isBlank c = true) : c.toNat ∈ blanks := by
  simp only [isBlank, Bool.or_eq_true, Bool.and_eq_true, decide_eq_true_iff] at h
  simp only [blanks, List.mem_cons, List.not_mem_nil, or_false]
  omega

/-- White space is no part of a word. -/
theorem isAlphanumeric_of_isBlank {c : Char} (h : isBlank c = true) : isAlphanumeric c = false := by
  have hall : ∀ n ∈ blanks, inTable alphanumericTable n = false := by decide +kernel
  exact hall _ (toNat_mem_blanks h)

/-- **A blank text has no words.** -/
theorem words_of_isBlankText (h : isBlankText s = true) : words s = [] := by
  have hruns : ∀ cs : List Char, cs.all isBlank = true → runsFrom [] cs = [] := by
    intro cs hcs
    induction cs with
    | nil => rfl
    | cons c cs ih =>
      rw [List.all_cons, Bool.and_eq_true] at hcs
      rw [runsFrom, isAlphanumeric_of_isBlank hcs.1]
      exact ih hcs.2
  rw [words, runs, hruns s.toList h]
  rfl

end LiveSearch.Text
