import LiveSearch.Json.Parser
import LiveSearch.Proofs.Text.Numerals

/-!
# Texts in quotation marks are read back

A text is written character by character, and each character is read back as its code point
(`Json.textUnits_escapedChar`). Code points of characters are never halves of surrogate pairs, so
joining them gives the characters (`Json.joinUnits_toNat`).
-/

namespace LiveSearch.Json

open Text

/-! ### Single characters -/

/-- An escape of a backslash and a letter stands for its character. -/
theorem textUnits_simpleEscape {e c : Char} {rest : List Char} (he : e ≠ 'u')
    (hc : simpleEscape? e = some c) :
    textUnits ('\\' :: e :: rest) =
      (textUnits rest).map fun (units, rest) => (c.toNat :: units, rest) := by
  rw [textUnits, hc, Option.bind_some]
  intro a b c' d rest' hu
  exact absurd hu he

/-- An escape by four hexadecimal digits stands for their number. -/
theorem textUnits_unitEscape {n : Nat} {rest : List Char} (hn : n < 16 ^ 4) :
    textUnits (['\\', 'u'] ++ Hex.fixed 4 n ++ rest) =
      (textUnits rest).map fun (units, rest) => (n :: units, rest) := by
  have hparse := Hex.parse?_fixed 3 n
  rw [Nat.mod_eq_of_lt hn, Hex.fixed_four] at hparse
  rw [Hex.fixed_four]
  simp only [List.cons_append, List.nil_append]
  rw [textUnits, hexUnit?, hparse, Option.bind_some]

/-- A character that needs no escape stands for itself. -/
theorem textUnits_plain {c : Char} {rest : List Char} (hquote : c ≠ '"') (hslash : c ≠ '\\')
    (hcontrol : ¬c.toNat < 0x20) :
    textUnits (c :: rest) = (textUnits rest).map fun (units, rest) => (c.toNat :: units, rest) := by
  rw [textUnits]
  · simp [hslash, hcontrol]
  · exact hquote
  · intro a b c' d rest' hc
    exact absurd hc hslash
  · intro e rest' hc
    exact absurd hc hslash

/-- **Every written character is read back as its code point.** -/
theorem textUnits_escapedChar (c : Char) (rest : List Char) :
    textUnits (escapedChar c ++ rest) =
      (textUnits rest).map fun (units, rest) => (c.toNat :: units, rest) := by
  rw [escapedChar]
  by_cases h1 : c = '"'
  · subst h1
    exact textUnits_simpleEscape (by decide) (by decide)
  by_cases h2 : c = '\\'
  · subst h2
    exact textUnits_simpleEscape (by decide) (by decide)
  by_cases h3 : c = '\x08'
  · subst h3
    exact textUnits_simpleEscape (by decide) (by decide)
  by_cases h4 : c = '\x0c'
  · subst h4
    exact textUnits_simpleEscape (by decide) (by decide)
  by_cases h5 : c = '\n'
  · subst h5
    exact textUnits_simpleEscape (by decide) (by decide)
  by_cases h6 : c = '\r'
  · subst h6
    exact textUnits_simpleEscape (by decide) (by decide)
  by_cases h7 : c = '\t'
  · subst h7
    exact textUnits_simpleEscape (by decide) (by decide)
  rw [if_neg h1, if_neg h2, if_neg h3, if_neg h4, if_neg h5, if_neg h6, if_neg h7]
  by_cases h8 : c.toNat < 0x20
  · rw [if_pos h8]
    exact textUnits_unitEscape (by omega)
  · rw [if_neg h8]
    exact textUnits_plain h1 h2 h8

/-! ### Whole texts -/

theorem textUnits_flatMap (cs rest : List Char) :
    textUnits (cs.flatMap escapedChar ++ '"' :: rest) = some (cs.map Char.toNat, rest) := by
  induction cs with
  | nil => rw [List.flatMap_nil, List.nil_append, textUnits, List.map_nil]
  | cons c cs ih =>
    rw [List.flatMap_cons, List.append_assoc, textUnits_escapedChar, ih]
    rfl

/-- The code point of a character is no half of a surrogate pair. -/
theorem isHalf_toNat (c : Char) :
    isHighHalf c.toNat = false ∧ isLowHalf c.toNat = false := by
  have hvalid : c.toNat < 0xd800 ∨ 0xdfff < c.toNat ∧ c.toNat < 0x110000 := c.valid
  rw [isHighHalf, isLowHalf]
  constructor <;> simp <;> omega

/-- **The code points of characters stand for the characters.** -/
theorem joinUnits_toNat (cs : List Char) : joinUnits (cs.map Char.toNat) = some cs := by
  induction cs with
  | nil => rfl
  | cons c cs ih =>
    obtain ⟨hhigh, hlow⟩ := isHalf_toNat c
    cases cs with
    | nil => simp [joinUnits, hhigh, hlow, Char.ofNat_toNat]
    | cons c' cs =>
      rw [List.map_cons] at ih ⊢
      rw [List.map_cons, joinUnits, hhigh, hlow, if_neg Bool.false_ne_true,
        if_neg Bool.false_ne_true, ih, Option.map_some, Char.ofNat_toNat]

/-- **A written text is read back**, with the characters that follow it. -/
theorem textToken_textForm (s : Option String) (rest : List Char) :
    ∃ inner, textForm s ++ rest = '"' :: inner ∧ textToken inner = some (s, rest) := by
  cases s with
  | none =>
    refine ⟨['\\', 'u', 'd', '8', '0', '0', '"'] ++ rest, rfl, ?_⟩
    have hunit : hexUnit? 'd' '8' '0' '0' = some 0xd800 := by decide
    simp only [List.cons_append, List.nil_append]
    rw [textToken, textUnits, hunit, Option.bind_some, textUnits]
    rfl
  | some s =>
    refine ⟨s.toList.flatMap escapedChar ++ '"' :: rest, ?_, ?_⟩
    · simp only [textForm, List.cons_append, List.append_assoc, List.nil_append]
    · rw [textToken, textUnits_flatMap, Option.map_some]
      simp only [joinUnits_toNat, Option.map_some, String.ofList_toList]

end LiveSearch.Json
