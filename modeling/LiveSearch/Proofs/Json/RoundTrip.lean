import LiveSearch.Proofs.Json.Text

/-!
# Written values are read back

**The text of a value is read as the value** (`Json.parse?_compact`), provided that all its numbers
are natural. The proof follows the writer: what is written for a value, followed by anything that
does not go on as a number, is read as the value, with the rest left over. The fuel of the reader is
covered by the length of the text, since each level of reading consumes a character.
-/

namespace LiveSearch.Json

open Text

/-! ### Values whose numbers are natural -/

mutual

/-- Are all numbers in the value natural? -/
def isIntegral : Json → Bool
  | .number _ => false
  | .array xs => areIntegral xs
  | .object ms => haveIntegral ms
  | _ => true

/-- Are all numbers in the values of a list natural? -/
def areIntegral : List Json → Bool
  | [] => true
  | x :: xs => isIntegral x && areIntegral xs

/-- Are all numbers in the values of some members natural? -/
def haveIntegral : List (Option String × Json) → Bool
  | [] => true
  | (_, x) :: ms => isIntegral x && haveIntegral ms

end

theorem areIntegral_iff {xs : List Json} :
    areIntegral xs = true ↔ ∀ x ∈ xs, x.isIntegral = true := by
  induction xs with
  | nil => simp [areIntegral]
  | cons x xs ih => rw [areIntegral, Bool.and_eq_true, ih, List.forall_mem_cons]

theorem haveIntegral_iff {ms : List (Option String × Json)} :
    haveIntegral ms = true ↔ ∀ m ∈ ms, m.2.isIntegral = true := by
  induction ms with
  | nil => simp [haveIntegral]
  | cons m ms ih => rw [haveIntegral, Bool.and_eq_true, ih, List.forall_mem_cons]

/-! ### Numbers -/

/-- What follows does not go on as a number. -/
def EndsNumber (rest : List Char) : Prop :=
  ∀ c cs, rest = c :: cs → isNumberChar c = false

theorem endsNumber_nil : EndsNumber [] := by
  intro c cs h
  cases h

theorem endsNumber_cons {c : Char} {cs : List Char} (h : isNumberChar c = false) :
    EndsNumber (c :: cs) := by
  rintro _ _ ⟨⟩
  exact h

theorem isNumberChar_of_isDigit {c : Char} (h : c.isDigit = true) : isNumberChar c = true := by
  simp [isNumberChar, h]

theorem isNatural_digits (n : Nat) : isNatural (Decimal.digits n) = true := by
  rcases Nat.eq_zero_or_pos n with rfl | hpos
  · rw [Decimal.digits_of_lt (by decide)]
    decide
  · obtain ⟨c, rest, heq, -, hzero⟩ := Decimal.digits_eq_cons n
    have hall : (c :: rest).all Char.isDigit = true := by
      rw [← heq, List.all_eq_true]
      exact fun x hx => Decimal.isDigit_of_mem_digits hx
    have hne : c ≠ '0' := hzero (by omega)
    rw [heq, isNatural]
    · simpa [hne] using hall
    · rintro rfl rfl
      exact hne rfl

theorem numberToken_digits {n : Nat} {rest : List Char} (h : EndsNumber rest) :
    numberToken (Decimal.digits n ++ rest) = some (.natural n, rest) := by
  have hdigits : ∀ c ∈ Decimal.digits n, isNumberChar c = true := fun c hc =>
    isNumberChar_of_isDigit (Decimal.isDigit_of_mem_digits hc)
  have hstop : rest.takeWhile isNumberChar = [] ∧ rest.dropWhile isNumberChar = rest := by
    cases rest with
    | nil => exact ⟨rfl, rfl⟩
    | cons c cs => simp [h c cs rfl]
  rw [numberToken, List.takeWhile_append_of_pos hdigits, List.dropWhile_append_of_pos hdigits,
    hstop.1, hstop.2, List.append_nil]
  simp only [isNatural_digits, if_true, Decimal.value_digits]

/-! ### The first character -/

/-- The text of a value begins with a character that is neither a blank nor closes anything. -/
theorem compact_eq_cons {v : Json} (h : v.isIntegral = true) :
    ∃ c cs, compact v = c :: cs ∧ isSpace c = false ∧ c ≠ ']' ∧ c ≠ '\x7d' := by
  cases v with
  | null => exact ⟨_, _, rfl, by decide, by decide, by decide⟩
  | bool b => cases b <;> exact ⟨_, _, rfl, by decide, by decide, by decide⟩
  | natural n =>
    obtain ⟨c, rest, heq, hc, -⟩ := Decimal.digits_eq_cons n
    refine ⟨c, rest, heq, ?_, ?_, ?_⟩
    · rw [isSpace]
      simp only [Bool.or_eq_false_iff, decide_eq_false_iff_not]
      refine ⟨⟨⟨?_, ?_⟩, ?_⟩, ?_⟩ <;> rintro rfl <;> exact absurd hc (by decide)
    · rintro rfl
      exact absurd hc (by decide)
    · rintro rfl
      exact absurd hc (by decide)
  | number lexeme => simp [isIntegral] at h
  | text s => cases s <;> exact ⟨_, _, rfl, by decide, by decide, by decide⟩
  | array xs => cases xs <;> exact ⟨_, _, rfl, by decide, by decide, by decide⟩
  | object ms =>
    cases ms with
    | nil => exact ⟨_, _, rfl, by decide, by decide, by decide⟩
    | cons m ms => exact ⟨_, _, rfl, by decide, by decide, by decide⟩

theorem skipSpace_cons {c : Char} (h : isSpace c = false) (cs : List Char) :
    skipSpace (c :: cs) = c :: cs := by
  rw [skipSpace, List.dropWhile_cons, h, if_neg Bool.false_ne_true]

theorem skipSpace_compact {v : Json} (h : v.isIntegral = true) (rest : List Char) :
    skipSpace (compact v ++ rest) = compact v ++ rest := by
  obtain ⟨c, cs, heq, hc, -⟩ := compact_eq_cons h
  rw [heq, List.cons_append, skipSpace_cons hc]

theorem endsNumber_compactElements (xs : List Json) (rest : List Char) :
    EndsNumber (compactElements xs ++ rest) := by
  cases xs <;> exact endsNumber_cons (by decide)

theorem endsNumber_compactMembers (ms : List (Option String × Json)) (rest : List Char) :
    EndsNumber (compactMembers ms ++ rest) := by
  cases ms <;> exact endsNumber_cons (by decide)

/-! ### Reading at a first character -/

/-- A digit at the front means a number. -/
theorem readValue_of_isDigit {fuel : Nat} {c : Char} {cs : List Char} (h : c.isDigit = true) :
    readValue (fuel + 1) (c :: cs) = numberToken (c :: cs) := by
  have hne : ∀ x : Char, x.isDigit = false → c ≠ x := by
    rintro x hx rfl
    rw [h] at hx
    cases hx
  have hspace : isSpace c = false := by
    simp [isSpace, hne ' ' (by decide), hne '\n' (by decide), hne '\t' (by decide),
      hne '\r' (by decide)]
  rw [readValue, skipSpace_cons hspace]
  split
  · next heq => exact absurd (List.cons.inj heq).1 (hne 'n' (by decide))
  · next heq => exact absurd (List.cons.inj heq).1 (hne 't' (by decide))
  · next heq => exact absurd (List.cons.inj heq).1 (hne 'f' (by decide))
  · next heq => exact absurd (List.cons.inj heq).1 (hne '"' (by decide))
  · next heq => exact absurd (List.cons.inj heq).1 (hne '[' (by decide))
  · next heq => exact absurd (List.cons.inj heq).1 (hne '\x7b' (by decide))
  · rfl

theorem readValue_text (fuel : Nat) (s : Option String) (rest : List Char) :
    readValue (fuel + 1) (textForm s ++ rest) = some (.text s, rest) := by
  obtain ⟨inner, heq, htoken⟩ := textToken_textForm s rest
  rw [heq, readValue, skipSpace_cons (by decide)]
  simp only [htoken, Option.map_some]

/-- A bracket, a value and further elements make an array. -/
theorem readValue_array {fuel : Nat} {x : Json} {xs : List Json} {cs after rest : List Char}
    (hspace : skipSpace cs = cs) (hclose : ∀ tail, cs ≠ ']' :: tail)
    (hx : readValue fuel cs = some (x, after)) (hxs : readElements fuel after = some (xs, rest)) :
    readValue (fuel + 1) ('[' :: cs) = some (.array (x :: xs), rest) := by
  rw [readValue, skipSpace_cons (by decide)]
  simp only [hspace]
  rw [hx, Option.bind_some, hxs, Option.map_some]

/-- A key, a colon and a value make a member. -/
theorem readMember_textForm {fuel : Nat} (key : Option String) {x : Json} {cs rest : List Char}
    (hx : readValue fuel cs = some (x, rest)) :
    readMember (fuel + 1) (textForm key ++ ':' :: cs) = some ((key, x), rest) := by
  obtain ⟨inner, heq, htoken⟩ := textToken_textForm key (':' :: cs)
  rw [heq, readMember, skipSpace_cons (by decide)]
  simp only [htoken, Option.bind_some, skipSpace_cons (c := ':') (by decide), hx, Option.map_some]

/-- A brace, a member and further members make an object. -/
theorem readValue_object {fuel : Nat} {key : Option String} {x : Json}
    {ms : List (Option String × Json)} {cs after rest : List Char}
    (hx : readValue fuel cs = some (x, after))
    (hms : readMembers (fuel + 1) after = some (ms, rest)) :
    readValue (fuel + 2) ('\x7b' :: (textForm key ++ ':' :: cs)) =
      some (.object ((key, x) :: ms), rest) := by
  have hm := readMember_textForm key hx
  obtain ⟨inner, heq, -⟩ := textToken_textForm key (':' :: cs)
  rw [heq] at hm ⊢
  rw [readValue, skipSpace_cons (by decide)]
  simp only [skipSpace_cons (c := '"') (by decide)]
  split
  · next hclose => exact absurd (List.cons.inj hclose).1 (by decide)
  · rw [hm, Option.bind_some, hms, Option.map_some]

/-! ### Whole values -/

mutual

/-- **A written value is read back**, with the characters that follow it. -/
theorem readValue_compact (v : Json) (fuel : Nat) (rest : List Char) (hv : v.isIntegral = true)
    (hfuel : (compact v).length ≤ fuel) (hrest : EndsNumber rest) :
    readValue fuel (compact v ++ rest) = some (v, rest) := by
  obtain ⟨c, cs, hcons, -⟩ := compact_eq_cons hv
  obtain ⟨fuel, rfl⟩ : ∃ f, fuel = f + 1 := by
    rw [hcons, List.length_cons] at hfuel
    exact ⟨fuel - 1, by omega⟩
  -- the induction is on the value; the fuel only has to outlast its text
  match v with
  | .null =>
    rw [compact, readValue]
    rfl
  | .bool b =>
    cases b <;> rw [compact, readValue] <;> rfl
  | .natural n =>
    obtain ⟨d, ds, heq, hd, -⟩ := Decimal.digits_eq_cons n
    have hnumber := numberToken_digits (n := n) hrest
    rw [compact]
    rw [heq, List.cons_append] at hnumber ⊢
    rw [readValue_of_isDigit hd, hnumber]
  | .number lexeme => simp [isIntegral] at hv
  | .text s =>
    rw [compact]
    exact readValue_text fuel s rest
  | .array [] =>
    rw [compact, readValue]
    rfl
  | .array (x :: xs) =>
    rw [isIntegral, areIntegral, Bool.and_eq_true] at hv
    rw [compact] at hfuel ⊢
    simp only [List.length_append, List.length_cons] at hfuel
    rw [List.cons_append, List.cons_append, List.append_assoc]
    refine readValue_array (skipSpace_compact hv.1 _) ?_
      (readValue_compact x fuel _ hv.1 (by omega) (endsNumber_compactElements xs rest))
      (readElements_compact xs fuel rest hv.2 (by omega))
    -- an element does not begin with a bracket, so the array is not taken for an empty one
    obtain ⟨c, cs, heq, -, hclose, -⟩ := compact_eq_cons hv.1
    rw [heq]
    rintro tail ⟨⟩
    exact hclose rfl
  | .object [] =>
    rw [compact, readValue]
    rfl
  | .object ((key, x) :: ms) =>
    rw [isIntegral, haveIntegral, Bool.and_eq_true] at hv
    rw [compact] at hfuel ⊢
    simp only [List.length_append, List.length_cons] at hfuel
    -- a member takes one round more than its value
    obtain ⟨fuel, rfl⟩ : ∃ f, fuel = f + 1 := ⟨fuel - 1, by omega⟩
    have hx := readValue_compact x fuel _ hv.1 (by omega) (endsNumber_compactMembers ms rest)
    have hms := readMembers_compact ms (fuel + 1) rest hv.2 (by omega)
    simp only [List.cons_append, List.append_assoc]
    exact readValue_object hx hms

/-- The further elements of an array are read back. -/
theorem readElements_compact (xs : List Json) (fuel : Nat) (rest : List Char)
    (hxs : areIntegral xs = true) (hfuel : (compactElements xs).length ≤ fuel) :
    readElements fuel (compactElements xs ++ rest) = some (xs, rest) := by
  match xs with
  | [] =>
    obtain ⟨fuel, rfl⟩ : ∃ f, fuel = f + 1 := ⟨fuel - 1, by simp [compactElements] at hfuel; omega⟩
    rfl
  | x :: xs =>
    rw [areIntegral, Bool.and_eq_true] at hxs
    rw [compactElements] at hfuel ⊢
    simp only [List.length_append, List.length_cons] at hfuel
    obtain ⟨fuel, rfl⟩ : ∃ f, fuel = f + 1 := ⟨fuel - 1, by omega⟩
    have hx := readValue_compact x fuel _ hxs.1 (by omega) (endsNumber_compactElements xs rest)
    have hrest := readElements_compact xs fuel rest hxs.2 (by omega)
    simp only [List.cons_append, List.append_assoc]
    rw [readElements, skipSpace_cons (by decide)]
    simp only [hx, Option.bind_some, hrest, Option.map_some]

/-- The further members of an object are read back. -/
theorem readMembers_compact (ms : List (Option String × Json)) (fuel : Nat) (rest : List Char)
    (hms : haveIntegral ms = true) (hfuel : (compactMembers ms).length ≤ fuel) :
    readMembers fuel (compactMembers ms ++ rest) = some (ms, rest) := by
  match ms with
  | [] =>
    obtain ⟨fuel, rfl⟩ : ∃ f, fuel = f + 1 := ⟨fuel - 1, by simp [compactMembers] at hfuel; omega⟩
    rfl
  | (key, x) :: ms =>
    rw [haveIntegral, Bool.and_eq_true] at hms
    rw [compactMembers] at hfuel ⊢
    simp only [List.length_append, List.length_cons] at hfuel
    obtain ⟨fuel, rfl⟩ : ∃ f, fuel = f + 2 := ⟨fuel - 2, by omega⟩
    have hx := readValue_compact x fuel _ hms.1 (by omega) (endsNumber_compactMembers ms rest)
    have hrest := readMembers_compact ms (fuel + 1) rest hms.2 (by omega)
    have hm := readMember_textForm key hx
    simp only [List.cons_append, List.append_assoc]
    rw [readMembers, skipSpace_cons (by decide)]
    simp only [hm, Option.bind_some, hrest, Option.map_some]

end

/-- **The text of a value is read as the value.** -/
theorem parse?_compact {v : Json} (hv : v.isIntegral = true) : parse? (compact v) = some v := by
  have hread := readValue_compact v (2 * (compact v).length + 2) [] hv (by omega) endsNumber_nil
  rw [List.append_nil] at hread
  rw [parse?, hread]
  rfl

end LiveSearch.Json
