import LiveSearch.Text.Pattern
import Mathlib.Data.List.Infix

/-!
# Escaped texts are literal

A text that has been escaped is read as the pattern of its own characters, whatever they are
(`Pattern.signs?_escape`), so a pattern that is put together from an escaped text and a star describes
the values that begin or end with this text (`Pattern.describes_front`, `Pattern.describes_back`).

The star stands for the rest of the value, and there a line feed is the one character that it does not
describe. Hence the condition on the rest in both statements.
-/

namespace LiveSearch.Text.Pattern

variable {k : CharClass} {text cs : List Char}

/-- The pattern of a text: its characters, one after the other. -/
def literally (text : List Char) : Pattern :=
  text.map fun c => .one (.exactly c)

/-- Any number of characters of one line. -/
def restOfLine : Pattern :=
  [.many .onLine]

/-! ### Reading what has been escaped -/

theorem signs?_backslash (c : Char) (rest : List Char) :
    signs? ('\\' :: c :: rest) =
      if isSpecial c then (signs? rest).map (.character (.exactly c) :: ·) else none := by
  rw [signs?.eq_def]
  exact if_pos rfl

theorem signs?_bare {c : Char} (h : c ≠ '\\') (rest : List Char) :
    signs? (c :: rest) = (bareSign? c).bind fun sign => (signs? rest).map (sign :: ·) := by
  rw [signs?.eq_def]
  exact if_neg h

/-- Where a character needs no backslash, it stands for itself. -/
theorem bareSign?_of_not_isSpecial {c : Char} (h : isSpecial c = false) :
    bareSign? c = some (.character (.exactly c)) := by
  have hoperator : isOperator c = false := (Bool.or_eq_false_iff.mp h).1
  have hne (d : Char) (hd : isOperator d = true) : c ≠ d := by
    rintro rfl
    rw [hoperator] at hd
    cases hd
  rw [bareSign?, if_neg (hne '.' (by decide)), if_neg (hne '*' (by decide)), hoperator]
  rfl

/-- **An escaped text is read as its characters**, and nothing of what follows is touched. -/
theorem signs?_escape (text rest : List Char) :
    signs? (escape text ++ rest) =
      (signs? rest).map (text.map (fun c => .character (.exactly c)) ++ ·) := by
  induction text with
  | nil => cases h : signs? rest <;> simp [escape, h]
  | cons c text ih =>
    have hcons : signs? (escape (c :: text) ++ rest) =
        (signs? (escape text ++ rest)).map (.character (.exactly c) :: ·) := by
      rw [escape, List.flatMap_cons, List.append_assoc]
      cases hspecial : isSpecial c with
      | true => exact (signs?_backslash c _).trans (if_pos hspecial)
      | false =>
        have hplain : c ≠ '\\' := by
          rintro rfl
          cases hspecial
        refine (signs?_bare hplain _).trans ?_
        rw [bareSign?_of_not_isSpecial hspecial]
        rfl
    rw [hcons, ih, Option.map_map]
    rfl

/-- Characters spell one piece each, unless a star follows them. -/
theorem pieces?_characters {signs : List Sign} {pattern : Pattern} (text : List Char)
    (hstar : signs.head? ≠ some .star) (hsigns : pieces? signs = some pattern) :
    pieces? (text.map (fun c => .character (.exactly c)) ++ signs) =
      some (literally text ++ pattern) := by
  induction text with
  | nil => exact hsigns
  | cons c text ih =>
    have hnext : (text.map (fun c => Sign.character (.exactly c)) ++ signs).head? ≠ some .star := by
      cases text with
      | nil => exact hstar
      | cons d text => simp
    rw [List.map_cons, List.cons_append]
    -- the next sign is no star, so the character is a piece of its own
    rw [pieces?, ih]
    · rfl
    · intro rest hrest
      rw [hrest] at hnext
      exact hnext rfl

/-- An escaped text followed by any number of characters. -/
theorem parse?_front (text : List Char) :
    parse? (escape text ++ ['.', '*']) = some (literally text ++ restOfLine) := by
  have hsigns : signs? ['.', '*'] = some [.character .onLine, .star] := by decide
  rw [parse?, signs?_escape, hsigns]
  exact pieces?_characters text (by decide) rfl

/-- Any number of characters followed by an escaped text. -/
theorem parse?_back (text : List Char) :
    parse? (['.', '*'] ++ escape text) = some (restOfLine ++ literally text) := by
  have hsigns : signs? (['.', '*'] ++ escape text) =
      some (.character .onLine :: .star :: (text.map fun c => .character (.exactly c)) ++ []) := by
    have hescaped := signs?_escape text []
    rw [List.append_nil] at hescaped
    rw [List.cons_append, signs?_bare (by decide), List.cons_append, signs?_bare (by decide),
      List.nil_append, hescaped]
    rfl
  have hpieces : pieces? ((text.map fun c => .character (.exactly c)) ++ []) =
      some (literally text ++ []) := pieces?_characters text (by decide) rfl
  rw [parse?, hsigns, Option.bind_some, List.cons_append, List.cons_append, pieces?, hpieces,
    List.append_nil]
  rfl

/-! ### What is described -/

/-- The pattern of a text describes the text, and then goes on. -/
theorem describes_literally (text : List Char) (p : Pattern) (cs : List Char) :
    describes (literally text ++ p) cs = true ↔
      ∃ rest, cs = text ++ rest ∧ describes p rest = true := by
  induction text generalizing cs with
  | nil => simp [literally]
  | cons c text ih =>
    have hcons : literally (c :: text) ++ p = .one (.exactly c) :: (literally text ++ p) := rfl
    rw [hcons]
    cases cs with
    | nil => simp [describes]
    | cons d cs =>
      rw [describes, Bool.and_eq_true, CharClass.holds, decide_eq_true_iff, ih]
      constructor
      · rintro ⟨rfl, rest, rfl, hrest⟩
        exact ⟨rest, rfl, hrest⟩
      · rintro ⟨rest, hcs, hrest⟩
        obtain ⟨rfl, rfl⟩ := List.cons.inj hcs
        exact ⟨rfl, rest, rfl, hrest⟩

/-- **A repetition describes a beginning** whose characters are all of the class. -/
theorem startsMany_iff {test : List Char → Bool} :
    startsMany k test cs = true ↔
      ∃ first rest, cs = first ++ rest ∧ (∀ c ∈ first, k.holds c = true) ∧ test rest = true := by
  induction cs with
  | nil => simp [startsMany]
  | cons c cs ih =>
    rw [startsMany, Bool.or_eq_true, Bool.and_eq_true, ih]
    constructor
    · rintro (htest | ⟨hc, first, rest, rfl, hfirst, htest⟩)
      · exact ⟨[], c :: cs, rfl, by simp, htest⟩
      · exact ⟨c :: first, rest, rfl, List.forall_mem_cons.mpr ⟨hc, hfirst⟩, htest⟩
    · rintro ⟨first, rest, hcs, hfirst, htest⟩
      cases first with
      | nil =>
        rw [hcs]
        exact Or.inl htest
      | cons d first =>
        obtain ⟨rfl, rfl⟩ := List.cons.inj hcs
        obtain ⟨hd, hfirst⟩ := List.forall_mem_cons.mp hfirst
        exact Or.inr ⟨hd, first, rest, rfl, hfirst, htest⟩

theorem forall_onLine {first : List Char} :
    (∀ c ∈ first, CharClass.onLine.holds c = true) ↔ '\n' ∉ first := by
  simp only [CharClass.holds, decide_eq_true_iff]
  exact ⟨fun h hmem => h _ hmem rfl, fun h c hc heq => h (heq ▸ hc)⟩

/-- **A value that begins with a text**, and goes on without a line feed. -/
theorem describes_front (text cs : List Char) :
    describes (literally text ++ restOfLine) cs = true ↔
      ∃ rest, cs = text ++ rest ∧ '\n' ∉ rest := by
  rw [describes_literally]
  refine exists_congr fun rest => and_congr_right fun _ => ?_
  rw [restOfLine, describes, startsMany_iff]
  constructor
  · rintro ⟨first, rest, rfl, hfirst, hempty⟩
    rw [describes, List.isEmpty_iff] at hempty
    rw [hempty, List.append_nil]
    exact forall_onLine.mp hfirst
  · intro hrest
    exact ⟨rest, [], (List.append_nil rest).symm, forall_onLine.mpr hrest, rfl⟩

/-- **A value that ends with a text**, and has no line feed before it. -/
theorem describes_back (text cs : List Char) :
    describes (restOfLine ++ literally text) cs = true ↔
      ∃ rest, cs = rest ++ text ∧ '\n' ∉ rest := by
  have hliteral (rest : List Char) : describes (literally text) rest = true ↔ rest = text := by
    rw [← List.append_nil (literally text), describes_literally]
    simp [describes]
  have hcons : restOfLine ++ literally text = .many .onLine :: literally text := rfl
  rw [hcons, describes, startsMany_iff]
  refine exists_congr fun first => ?_
  rw [forall_onLine]
  constructor
  · rintro ⟨rest, rfl, hfirst, hrest⟩
    rw [(hliteral rest).mp hrest]
    exact ⟨rfl, hfirst⟩
  · rintro ⟨rfl, hfirst⟩
    exact ⟨text, rfl, hfirst, (hliteral text).mpr rfl⟩

end LiveSearch.Text.Pattern
