import LiveSearch.Proofs.Text.Hexadecimal
import LiveSearch.Reference

/-!
# Full references are read

A full reference is written in sixteen hexadecimal digits of either case, behind one number sign or
behind none (`Reference.Spelled`). The reader takes off the sign, counts the bytes of what is left,
and leaves the rest to a reader of numbers – which has a grammar of its own: in front of the digits
it passes over a plus sign. So there is one kind of text that is read although it is no reference: a
plus sign in the place of the first digit, which is read as if a zero stood there.

**What is read is exactly what is written in one of the two ways** (`Reference.parse_eq_ok_iff`),
and both forms in which a reference is written out are read back. Nothing that is longer than a
digit in bytes gets past the count, since no other character is passed over.
-/

namespace LiveSearch

open Text

namespace Reference

variable {s : String} {r : Reference} {body : List Char}

/-! ### The number sign -/

/-- **The text is spelled** by some characters, behind an optional number sign. -/
def Spelled (s : String) (body : List Char) : Prop :=
  s.toList = body ∨ s.toList = '#' :: body

theorem spelled_withoutSign (s : String) : Spelled s (withoutSign s.toList) := by
  rw [Spelled]
  generalize s.toList = cs
  cases cs with
  | nil => exact Or.inl rfl
  | cons c rest =>
    by_cases hc : c = '#'
    · subst hc
      exact Or.inr rfl
    · exact Or.inl (withoutSign.eq_2 _ fun rest' heq => hc (List.cons.inj heq).1).symm

theorem spelled_sign_append (t : String) : Spelled ("#" ++ t) t.toList :=
  Or.inr String.toList_append

/-- The sign is what is taken off, if the characters themselves begin with no other sign. -/
theorem Spelled.withoutSign_eq (h : Spelled s body) (hsign : '#' ∉ body) :
    withoutSign s.toList = body := by
  rcases h with h | h
  · rw [h]
    exact withoutSign.eq_2 _ fun rest heq => hsign (heq ▸ List.mem_cons_self)
  · rw [h]
    rfl

/-! ### The digits of a reference -/

theorem value_lt (r : Reference) : r.value.toNat < 16 ^ 16 :=
  r.value.toNat_lt

theorem length_digits (r : Reference) : r.digits.length = 16 :=
  Hex.length_fixed 16 _

theorem denotes_digits (r : Reference) : Hex.Denotes r.digits r.value.toNat :=
  Hex.denotes_fixed r.value_lt

theorem toList_full (r : Reference) : r.full.toList = r.digits :=
  String.toList_ofList

theorem spelled_full (r : Reference) : Spelled r.full r.digits :=
  Or.inl r.toList_full

theorem spelled_sign_full (r : Reference) : Spelled ("#" ++ r.full) r.digits := by
  rw [← toList_full]
  exact spelled_sign_append r.full

/-! ### What is read -/

/-- **A number is written** in sixteen digits. -/
def Written (body : List Char) (n : Nat) : Prop :=
  body.length = 16 ∧ Hex.Denotes body n

/-- **A number is written with a plus sign** in the place of the first of sixteen digits. -/
def WrittenWithPlus (body : List Char) (n : Nat) : Prop :=
  ∃ digits, body = '+' :: digits ∧ digits.length = 15 ∧ Hex.Denotes digits n

/-- The digits of what is written, where a zero stands for the plus sign. -/
theorem Written.lowercase_eq (h : Written body r.value.toNat) : lowercase body = r.digits := by
  rw [h.2.lowercase_eq, h.1, digits]

theorem WrittenWithPlus.lowercase_eq (h : WrittenWithPlus body r.value.toNat) :
    ∃ rest, body = '+' :: rest ∧ '0' :: lowercase rest = r.digits := by
  obtain ⟨rest, rfl, hlength, hdigits⟩ := h
  have hlt := hdigits.lt
  rw [hlength] at hlt
  refine ⟨rest, rfl, ?_⟩
  -- a number with room in fifteen digits has a zero before them
  have hsplit := Hex.fixed_add 1 15 r.value.toNat
  have hzero : Hex.fixed 1 0 = ['0'] := by decide
  rw [Nat.div_eq_of_lt hlt, hzero, List.singleton_append] at hsplit
  rw [hdigits.lowercase_eq, hlength]
  exact hsplit.symm

section Reading

variable {n : Nat}

theorem not_mem_of_written (h : Written body n ∨ WrittenWithPlus body n) : '#' ∉ body := by
  rcases h with ⟨-, hdigits⟩ | ⟨digits, rfl, -, hdigits⟩
  · exact hdigits.not_mem rfl
  · rw [List.mem_cons, not_or]
    exact ⟨by decide, hdigits.not_mem rfl⟩

theorem lt_of_written (h : Written body n ∨ WrittenWithPlus body n) : n < UInt64.size := by
  rcases h with ⟨hlength, hdigits⟩ | ⟨digits, -, hlength, hdigits⟩
  · have hlt := hdigits.lt
    rw [hlength] at hlt
    exact hlt
  · have hlt := hdigits.lt
    rw [hlength] at hlt
    exact Nat.lt_trans hlt (by decide)

/-- **Sixteen bytes are read as a number** if it is written in one of the two ways. -/
theorem byteLength_eq_and_parse?_eq_iff :
    byteLength body = 16 ∧ Hex.parse? (Decimal.withoutPlus body) = some n ↔
      Written body n ∨ WrittenWithPlus body n := by
  by_cases hplus : ∃ digits, body = '+' :: digits
  · obtain ⟨digits, rfl⟩ := hplus
    have hbytes : byteLength ('+' :: digits) = 1 + byteLength digits := rfl
    rw [hbytes, show Decimal.withoutPlus ('+' :: digits) = digits from rfl, Hex.parse?_eq_some_iff]
    constructor
    · rintro ⟨hlength, -, hdigits⟩
      rw [hdigits.byteLength_eq] at hlength
      exact Or.inr ⟨digits, rfl, by omega, hdigits⟩
    · rintro (⟨-, hdigits⟩ | ⟨_, heq, hlength, hdigits⟩)
      · exact absurd List.mem_cons_self (hdigits.not_mem rfl)
      · obtain rfl := (List.cons.inj heq).2
        refine ⟨by rw [hdigits.byteLength_eq, hlength], ?_, hdigits⟩
        rintro rfl
        cases hlength
  · have hsame : Decimal.withoutPlus body = body :=
      Decimal.withoutPlus.eq_2 _ fun digits heq => hplus ⟨digits, heq⟩
    rw [hsame, Hex.parse?_eq_some_iff]
    constructor
    · rintro ⟨hlength, -, hdigits⟩
      exact Or.inl ⟨hdigits.byteLength_eq ▸ hlength, hdigits⟩
    · rintro (⟨hlength, hdigits⟩ | ⟨digits, heq, -⟩)
      · refine ⟨by rw [hdigits.byteLength_eq, hlength], ?_, hdigits⟩
        rintro rfl
        cases hlength
      · exact absurd ⟨digits, heq⟩ hplus

end Reading

/-- **A text is read as a reference** if the characters behind its sign are written in one of the
two ways. -/
theorem parse_eq_ok_iff :
    parse s = .ok r ↔
      ∃ body, Spelled s body ∧
        (Written body r.value.toNat ∨ WrittenWithPlus body r.value.toNat) := by
  constructor
  · intro h
    rw [parse] at h
    split at h
    · cases h
    · next hlength =>
      split at h
      · next n hn =>
        have hwritten := byteLength_eq_and_parse?_eq_iff.mp ⟨not_not.mp hlength, hn⟩
        have hvalue : r.value.toNat = n := by
          rw [← Except.ok.inj h]
          exact UInt64.toNat_ofNat_of_lt (lt_of_written hwritten)
        exact ⟨_, spelled_withoutSign s, hvalue ▸ hwritten⟩
      · cases h
  · rintro ⟨body, hspelled, hwritten⟩
    obtain ⟨hlength, hn⟩ := byteLength_eq_and_parse?_eq_iff.mpr hwritten
    rw [parse, hspelled.withoutSign_eq (not_mem_of_written hwritten)]
    simp [hlength, hn]

/-- No text is written in both ways. -/
theorem not_writtenWithPlus_of_written {n m : Nat}
    (h : ∃ body, Spelled s body ∧ Written body n) :
    ¬∃ body, Spelled s body ∧ WrittenWithPlus body m := by
  rintro ⟨body, hspelled, hplus⟩
  obtain ⟨body', hspelled', hwritten⟩ := h
  have hsame := hspelled.withoutSign_eq (not_mem_of_written (Or.inr hplus))
  rw [hspelled'.withoutSign_eq (not_mem_of_written (Or.inl hwritten))] at hsame
  obtain ⟨digits, hbody, -⟩ := hplus
  rw [hbody] at hsame
  exact hwritten.2.not_mem (c := '+') rfl (hsame ▸ List.mem_cons_self)

/-- **A reference is read from its digits.** A text is read as a reference if and only if it is,
behind one number sign or none, written in sixteen hexadecimal digits of either case that denote its
number, or in a plus sign and fifteen such digits; so the digits alone decide if and only if the
text is not written with a plus sign. Both forms in which all digits of a reference are written out
are read back. And what stands behind the sign of a text that is read is in lower case the sixteen
digits of the reference, if a zero is put in the place of a plus sign. -/
theorem reads_digits (s : String) (r : Reference) :
    (parse s = .ok r ↔
      ∃ body, Spelled s body ∧
        (Written body r.value.toNat ∨ WrittenWithPlus body r.value.toNat)) ∧
    ((parse s = .ok r ↔ ∃ body, Spelled s body ∧ Written body r.value.toNat) ↔
      ¬∃ body, Spelled s body ∧ WrittenWithPlus body r.value.toNat) ∧
    (parse r.full = .ok r ∧ parse ("#" ++ r.full) = .ok r) ∧
    (parse s = .ok r →
      lowercase (withoutSign s.toList) = r.digits ∨
        ∃ rest, withoutSign s.toList = '+' :: rest ∧ '0' :: lowercase rest = r.digits) := by
  refine ⟨parse_eq_ok_iff, ⟨fun hdigits hplus => ?_, fun hplus => ⟨fun h => ?_, ?_⟩⟩, ?_,
    fun h => ?_⟩
  · obtain ⟨body, hspelled, hwritten⟩ := hplus
    have hread := parse_eq_ok_iff.mpr ⟨body, hspelled, Or.inr hwritten⟩
    exact not_writtenWithPlus_of_written (hdigits.mp hread) ⟨body, hspelled, hwritten⟩
  · obtain ⟨body, hspelled, hwritten⟩ := parse_eq_ok_iff.mp h
    exact ⟨body, hspelled, hwritten.resolve_right fun h => hplus ⟨body, hspelled, h⟩⟩
  · rintro ⟨body, hspelled, hwritten⟩
    exact parse_eq_ok_iff.mpr ⟨body, hspelled, Or.inl hwritten⟩
  · have hwritten : Written r.digits r.value.toNat := ⟨r.length_digits, r.denotes_digits⟩
    exact ⟨parse_eq_ok_iff.mpr ⟨_, r.spelled_full, Or.inl hwritten⟩,
      parse_eq_ok_iff.mpr ⟨_, r.spelled_sign_full, Or.inl hwritten⟩⟩
  · obtain ⟨body, hspelled, hwritten⟩ := parse_eq_ok_iff.mp h
    rw [hspelled.withoutSign_eq (not_mem_of_written hwritten)]
    exact hwritten.imp Written.lowercase_eq WrittenWithPlus.lowercase_eq

/-- A plus sign and fifteen digits are read, though they are no sixteen digits. -/
theorem reads_digits_of_plus :
    parse "#+00000000000000A" = .ok ⟨10⟩ ∧
      (∀ body, Spelled "#+00000000000000A" body → ¬Written body 10) ∧
      ∃ rest, withoutSign "#+00000000000000A".toList = '+' :: rest ∧
        '0' :: lowercase rest = digits ⟨10⟩ := by
  have hparse : parse "#+00000000000000A" = .ok ⟨10⟩ := by decide +kernel
  have hbody : withoutSign "#+00000000000000A".toList = "+00000000000000A".toList := by
    decide +kernel
  refine ⟨hparse, fun body hspelled hwritten => ?_, ?_⟩
  · have hsame := hspelled.withoutSign_eq (not_mem_of_written (Or.inl hwritten))
    rw [hbody] at hsame
    exact hwritten.2.not_mem (c := '+') rfl (by rw [← hsame]; decide +kernel)
  · refine ((reads_digits _ _).2.2.2 hparse).resolve_left ?_
    rw [hbody]
    decide +kernel

end Reference

end LiveSearch
