import LiveSearch.Proofs.Calendar.Days
import LiveSearch.Proofs.Text.Decimals
import LiveSearch.Proofs.Text.Trimming

/-!
# Dates are read

A day is written as year, month and day with hyphens between them (`Day.Written`). Each of the three
may have blanks before it, and the year a sign, behind which it may be of any length; without a sign
it has at most four digits, as the month and the day have at most two. The reader takes as many
digits as there are, up to this limit, and what follows a number in a day, a hyphen or the end of
the text, is no digit. So it takes apart what was put together: **a text that is written in this way
is read as the day, or is out of range** because there is no such day (`Day.parse_of_written`), and
no other text is read (`Day.parse_eq_ok_iff`).

A time is typed as a number or as a day. As a day has a hyphen and a number has none, no text is
both, so the order in which the two are tried does not matter. **A number stands for itself, and a
day for the seconds of the days before it** (`parseTime_reads`).
-/

namespace LiveSearch

open Text

/-! ### One reader behind another -/

section Reader

variable {ε α β : Type} {a : α} {y : β} {x : Except ε α} {f : α → Except ε β}

/-- A reader goes on behind what has been read. -/
theorem bind_of_eq_ok (h : x = .ok a) : (x >>= f) = f a := by
  rw [h]
  rfl

/-- What has been read in the end has been read step by step. -/
theorem exists_of_bind_eq_ok (h : (x >>= f) = .ok y) : ∃ a, x = .ok a ∧ f a = .ok y := by
  cases x with
  | error e => cases h
  | ok a => exact ⟨a, rfl, h⟩

/-- A reader that fails fails as a whole. -/
theorem bind_of_eq_error {e : ε} (h : x = .error e) : (x >>= f) = .error e := by
  rw [h]
  rfl

end Reader

namespace Day

variable {cs bs ds ys rest : List Char} {width bound n : Nat} {year : Int} {d : Day}

/-! ### Numbers with a limit to their digits -/

/-- A number is written in one to `width` digits. -/
structure NumberWritten (width : Nat) (ds : List Char) (n : Nat) : Prop where
  denotes : Decimal.Denotes ds n
  ne_nil : ds ≠ []
  length_le : ds.length ≤ width

/-- No number goes on in the text: it is at its end, or at something that is no digit. -/
def Stops (rest : List Char) : Prop :=
  ∀ c ∈ rest.head?, c.isDigit = false

theorem stops_nil : Stops [] := fun c hc => absurd hc (by simp)

theorem stops_hyphen (rest : List Char) : Stops ('-' :: rest) := by
  rintro c ⟨⟩
  rfl

theorem NumberWritten.exists_cons (h : NumberWritten width ds n) :
    ∃ c rest, ds = c :: rest ∧ c.isDigit = true := by
  obtain ⟨c, rest, hds⟩ := List.exists_cons_of_ne_nil h.ne_nil
  exact ⟨c, rest, hds, h.denotes.isDigit (hds ▸ List.mem_cons_self)⟩

/-- The digits of a number are all taken, and no more. -/
theorem readNumber_append (h : NumberWritten width ds n) (hstops : Stops rest) :
    readNumber width (ds ++ rest) = .ok (n, rest) := by
  have hrest : (rest.take (width - ds.length)).takeWhile Char.isDigit = [] := by
    cases rest with
    | nil => rw [List.take_nil, List.takeWhile_nil]
    | cons c rest =>
      cases width - ds.length with
      | zero => rfl
      | succ k =>
        rw [List.take_succ_cons, List.takeWhile_cons_of_neg]
        rw [hstops c rfl]
        decide
  have htaken : ((ds ++ rest).take width).takeWhile Char.isDigit = ds := by
    rw [List.take_append, List.take_of_length_le h.length_le,
      List.takeWhile_append_of_pos fun c => h.denotes.isDigit, hrest, List.append_nil]
  obtain ⟨c, ds, rfl, -⟩ := h.exists_cons
  rw [readNumber, htaken, List.drop_left, (Decimal.denotes_iff.mp h.denotes).2]
  rfl

/-- A number that is read is written where the text begins. -/
theorem readNumber_eq_ok (h : readNumber width cs = .ok (n, rest)) :
    ∃ ds, NumberWritten width ds n ∧ cs = ds ++ rest := by
  have hprefix : (cs.take width).takeWhile Char.isDigit <+: cs :=
    (List.takeWhile_prefix _).trans (List.take_prefix width cs)
  rw [readNumber] at h
  split at h
  · cases h
  · split at h
    · cases h
    · next hne =>
      cases h
      refine ⟨_, ⟨Decimal.denotes_iff.mpr ⟨List.all_eq_true.mp List.all_takeWhile, rfl⟩, ?_, ?_⟩,
        (List.prefix_iff_eq_append.mp hprefix).symm⟩
      · rwa [List.isEmpty_iff] at hne
      · exact (List.takeWhile_prefix _).length_le.trans (List.length_take_le width cs)

/-! ### The parts of a day -/

/-- **A year is written**: in at most four digits, or behind a sign in any number of them. -/
inductive YearWritten : List Char → Int → Prop where
  | unsigned {ds : List Char} {n : Nat} (h : NumberWritten 4 ds n) : YearWritten ds n
  | plus {ds : List Char} {n : Nat} (h : NumberWritten ds.length ds n) : YearWritten ('+' :: ds) n
  | minus {ds : List Char} {n : Nat} (h : NumberWritten ds.length ds n) :
    YearWritten ('-' :: ds) (-n)

/-- There are only blanks in the text. -/
def Blanks (cs : List Char) : Prop :=
  ∀ c ∈ cs, isBlank c = true

/-- The blanks before a text are passed over, and nothing else. -/
theorem trimStart_append (hblank : Blanks bs) (hfirst : ∀ c ∈ cs.head?, isBlank c = false) :
    trimStart (bs ++ cs) = cs := by
  rw [trimStart, List.dropWhile_append_of_pos hblank]
  cases cs with
  | nil => rfl
  | cons c cs => exact List.dropWhile_cons_of_neg (by simpa using hfirst c rfl)

/-- Blanks are passed over where a text begins. -/
theorem exists_blanks (cs : List Char) : ∃ bs, Blanks bs ∧ cs = bs ++ trimStart cs :=
  ⟨cs.takeWhile isBlank, List.all_eq_true.mp List.all_takeWhile,
    List.takeWhile_append_dropWhile.symm⟩

theorem NumberWritten.isBlank_head (h : NumberWritten width ds n) (rest : List Char) :
    ∀ c ∈ (ds ++ rest).head?, isBlank c = false := by
  obtain ⟨c, ds, rfl, hdigit⟩ := h.exists_cons
  rintro _ ⟨⟩
  exact isBlank_of_isDigit hdigit

theorem YearWritten.isBlank_head (h : YearWritten ys year) (rest : List Char) :
    ∀ c ∈ (ys ++ rest).head?, isBlank c = false := by
  cases h with
  | unsigned h => exact h.isBlank_head rest
  | plus h | minus h =>
    rintro _ ⟨⟩
    decide

/-- Reads a year of any size. -/
def readSigned (cs : List Char) : Except DateFault (Int × List Char) :=
  match trimStart cs with
  | '-' :: ds => (readNumber ds.length ds).map fun (n, rest) => (-(n : Int), rest)
  | '+' :: ds => (readNumber ds.length ds).map fun (n, rest) => ((n : Int), rest)
  | ds => (readNumber 4 ds).map fun (n, rest) => ((n : Int), rest)

theorem readYear_eq (cs : List Char) :
    readYear cs = readSigned cs >>= fun p =>
      if -yearLimit ≤ p.1 ∧ p.1 < yearLimit then .ok p else .error .outOfRange := by
  rw [readYear]
  generalize hds : trimStart cs = ds
  split
  · rw [readSigned, hds]
    rfl
  · rw [readSigned, hds]
    rfl
  · next hminus hplus =>
    rw [readSigned, hds]
    split
    · exact absurd rfl (hminus _)
    · exact absurd rfl (hplus _)
    · rfl

theorem readSigned_append (hblank : Blanks bs) (h : YearWritten ys year) (hstops : Stops rest) :
    readSigned (bs ++ (ys ++ rest)) = .ok (year, rest) := by
  -- the limit behind a sign, the length of the text, is none
  have hsigned : ∀ {ds : List Char} {n : Nat}, NumberWritten ds.length ds n →
      readNumber (ds ++ rest).length (ds ++ rest) = .ok (n, rest) := fun h =>
    readNumber_append ⟨h.denotes, h.ne_nil, List.length_append ▸ Nat.le_add_right _ _⟩ hstops
  rw [readSigned, trimStart_append hblank (h.isBlank_head rest)]
  cases h with
  | unsigned h =>
    have hread := readNumber_append h hstops
    obtain ⟨c, ds, rfl, hdigit⟩ := h.exists_cons
    split
    · next heq => exact absurd hdigit (by rw [(List.cons.inj heq).1]; decide)
    · next heq => exact absurd hdigit (by rw [(List.cons.inj heq).1]; decide)
    · rw [hread]
      rfl
  | plus h | minus h =>
    simp only [List.cons_append, hsigned h]
    rfl

/-- **A year is read** if it has room in thirty-two bits. -/
theorem readYear_append (hblank : Blanks bs) (h : YearWritten ys year) (hstops : Stops rest) :
    readYear (bs ++ (ys ++ rest)) =
      if -yearLimit ≤ year ∧ year < yearLimit then .ok (year, rest) else .error .outOfRange := by
  rw [readYear_eq]
  exact bind_of_eq_ok (readSigned_append hblank h hstops)

theorem exists_of_map_eq_ok {x : Except DateFault (Nat × List Char)} (sign : Nat → Int)
    (h : x.map (fun (n, rest) => (sign n, rest)) = .ok (year, rest)) :
    ∃ n, x = .ok (n, rest) ∧ sign n = year := by
  cases x with
  | error e => cases h
  | ok p =>
    cases h
    exact ⟨p.1, rfl, rfl⟩

/-- A year that is read is written behind some blanks. -/
theorem readYear_eq_ok (h : readYear cs = .ok (year, rest)) :
    ∃ bs ys, Blanks bs ∧ YearWritten ys year ∧ cs = bs ++ (ys ++ rest) := by
  obtain ⟨bs, hblank, hcs⟩ := exists_blanks cs
  have hsigned : readSigned cs = .ok (year, rest) := by
    rw [readYear_eq] at h
    obtain ⟨p, hread, hlimit⟩ := exists_of_bind_eq_ok h
    split at hlimit
    · rw [hread, hlimit]
    · cases hlimit
  rw [readSigned] at hsigned
  split at hsigned
  · next ds heq =>
    obtain ⟨n, hread, rfl⟩ := exists_of_map_eq_ok (fun n => -(n : Int)) hsigned
    obtain ⟨ds', hwritten, rfl⟩ := readNumber_eq_ok hread
    exact ⟨bs, '-' :: ds', hblank, .minus ⟨hwritten.denotes, hwritten.ne_nil, Nat.le_refl _⟩,
      hcs.trans (by rw [heq, List.cons_append])⟩
  · next ds heq =>
    obtain ⟨n, hread, rfl⟩ := exists_of_map_eq_ok Int.ofNat hsigned
    obtain ⟨ds', hwritten, rfl⟩ := readNumber_eq_ok hread
    exact ⟨bs, '+' :: ds', hblank, .plus ⟨hwritten.denotes, hwritten.ne_nil, Nat.le_refl _⟩,
      hcs.trans (by rw [heq, List.cons_append])⟩
  · obtain ⟨n, hread, rfl⟩ := exists_of_map_eq_ok Int.ofNat hsigned
    obtain ⟨ds', hwritten, heq⟩ := readNumber_eq_ok hread
    exact ⟨bs, ds', hblank, .unsigned hwritten, hcs.trans (by rw [heq])⟩

/-- A month or a day is read if it is in its bounds. -/
theorem readPart_append (bound : Nat) (hblank : Blanks bs) (h : NumberWritten 2 ds n)
    (hstops : Stops rest) :
    readPart bound (bs ++ (ds ++ rest)) =
      if 1 ≤ n ∧ n ≤ bound then .ok (n, rest) else .error .outOfRange := by
  rw [readPart, trimStart_append hblank (h.isBlank_head rest), readNumber_append h hstops]
  rfl

theorem readPart_eq_ok (h : readPart bound cs = .ok (n, rest)) :
    ∃ bs ds, Blanks bs ∧ NumberWritten 2 ds n ∧ cs = bs ++ (ds ++ rest) := by
  obtain ⟨bs, hblank, hcs⟩ := exists_blanks cs
  obtain ⟨p, hread, hbound⟩ := exists_of_bind_eq_ok h
  obtain ⟨ds, hwritten, heq⟩ := readNumber_eq_ok hread
  dsimp only at hbound
  split at hbound
  · cases hbound
    exact ⟨bs, ds, hblank, hwritten, hcs.trans (by rw [heq])⟩
  · cases hbound

/-! ### Days -/

/-- **A day is written** as year, month and day, with hyphens between them; each may have blanks
before it. -/
inductive Written : List Char → Day → Prop where
  | parts {bs₁ bs₂ bs₃ ys ms ds : List Char} {year : Int} {month day : Nat}
    (hblank₁ : Blanks bs₁) (hyear : YearWritten ys year)
    (hblank₂ : Blanks bs₂) (hmonth : NumberWritten 2 ms month)
    (hblank₃ : Blanks bs₃) (hday : NumberWritten 2 ds day) :
    Written (bs₁ ++ (ys ++ '-' :: (bs₂ ++ (ms ++ '-' :: (bs₃ ++ ds))))) ⟨year, month, day⟩

/-- The bounds that the parts are held against one by one leave out no day that can be read. -/
theorem bounds_of_isValid (h : d.isValid = true) :
    (-yearLimit ≤ d.year ∧ d.year < yearLimit) ∧ (1 ≤ d.month ∧ d.month ≤ 12) ∧
      1 ≤ d.day ∧ d.day ≤ 31 := by
  obtain ⟨hexists, hfirst, hlast⟩ := isValid_iff.mp h
  have hlength := (lengthOfMonth_bounds d.year d.month).2
  have hlow : -yearLimit ≤ firstYear := by decide
  have hhigh : lastYear < yearLimit := by decide
  exact ⟨⟨Int.le_trans hlow hfirst, Int.lt_of_le_of_lt hlast hhigh⟩,
    ⟨hexists.one_le_month, hexists.month_le⟩, hexists.one_le_day,
    Nat.le_trans hexists.day_le hlength⟩

theorem readHyphen_cons (rest : List Char) : readHyphen ('-' :: rest) = .ok rest := rfl

theorem readHyphen_eq_ok (h : readHyphen cs = .ok rest) : cs = '-' :: rest := by
  rw [readHyphen.eq_def] at h
  split at h
  · cases h
  · exact congrArg _ (Except.ok.inj h)
  · cases h

/-- **A day that is written is read**, or is out of range. -/
theorem parse_of_written (h : Written cs d) :
    parse cs = if d.isValid = true then .ok d else .error .outOfRange := by
  obtain ⟨hblank₁, hys, hblank₂, hms, hblank₃, hds⟩ := h
  next bs₁ bs₂ bs₃ ys ms ds year month day =>
  have hyear := readYear_append hblank₁ hys (stops_hyphen (bs₂ ++ (ms ++ '-' :: (bs₃ ++ ds))))
  have hmonth := readPart_append 12 hblank₂ hms (stops_hyphen (bs₃ ++ ds))
  have hday := readPart_append 31 hblank₃ hds stops_nil
  rw [List.append_nil] at hday
  by_cases hvalid : Day.isValid ⟨year, month, day⟩ = true
  · obtain ⟨hyears, hmonths, hdays⟩ := bounds_of_isValid hvalid
    rw [if_pos hyears] at hyear
    rw [if_pos hmonths] at hmonth
    rw [if_pos hdays] at hday
    rw [if_pos hvalid, parse, bind_of_eq_ok hyear]
    refine (bind_of_eq_ok hmonth).trans ((bind_of_eq_ok hday).trans ?_)
    exact if_pos hvalid
  -- the day is refused at the first part that is out of its bounds, or at the end
  · rw [if_neg hvalid, parse]
    split at hyear
    · rw [bind_of_eq_ok hyear]
      refine (bind_of_eq_ok (readHyphen_cons _)).trans ?_
      split at hmonth
      · refine (bind_of_eq_ok hmonth).trans ((bind_of_eq_ok (readHyphen_cons _)).trans ?_)
        split at hday
        · exact (bind_of_eq_ok hday).trans (if_neg hvalid)
        · exact bind_of_eq_error hday
      · exact bind_of_eq_error hmonth
    · exact bind_of_eq_error hyear

/-- **What is read is what is written**, of the days that can be read. -/
theorem parse_eq_ok_iff : parse cs = .ok d ↔ Written cs d ∧ d.isValid = true := by
  constructor
  · intro h
    obtain ⟨⟨year, _⟩, hyear, h⟩ := exists_of_bind_eq_ok h
    obtain ⟨_, hhyphen, h⟩ := exists_of_bind_eq_ok h
    obtain ⟨⟨month, _⟩, hmonth, h⟩ := exists_of_bind_eq_ok h
    obtain ⟨_, hhyphen', h⟩ := exists_of_bind_eq_ok h
    obtain ⟨⟨day, final⟩, hday, hlast⟩ := exists_of_bind_eq_ok h
    obtain ⟨bs₁, ys, hblank₁, hyears, rfl⟩ := readYear_eq_ok hyear
    obtain ⟨bs₂, ms, hblank₂, hmonths, rfl⟩ := readPart_eq_ok hmonth
    obtain ⟨bs₃, ds, hblank₃, hdays, rfl⟩ := readPart_eq_ok hday
    rw [readHyphen_eq_ok hhyphen, readHyphen_eq_ok hhyphen']
    dsimp only at hlast
    split at hlast
    · cases hlast
    · next hend =>
      have hend : final = [] := by simpa using hend
      rw [hend, List.append_nil]
      split at hlast
      · next hvalid =>
        cases hlast
        exact ⟨.parts hblank₁ hyears hblank₂ hmonths hblank₃ hdays, hvalid⟩
      · cases hlast
  · rintro ⟨hwritten, hvalid⟩
    rw [parse_of_written hwritten, if_pos hvalid]

/-- A day is written with a hyphen. -/
theorem Written.hyphen_mem (h : Written cs d) : '-' ∈ cs := by
  obtain ⟨-, -, -, -, -, -⟩ := h
  simp

/-- **A day can be counted to**: it exists, and is neither before 1970 nor after the last year that
days are read in. -/
def Countable (d : Day) : Prop :=
  d.Exists ∧ 1970 ≤ d.year ∧ d.year ≤ 262142

theorem countable_iff : d.Countable ↔ d.isValid = true ∧ 0 ≤ d.sinceEpoch := by
  rw [isValid_iff, Countable]
  constructor
  · rintro ⟨hexists, hfirst, hlast⟩
    have hlow : firstYear ≤ 1970 := by decide
    exact ⟨⟨hexists, Int.le_trans hlow hfirst, hlast⟩, (sinceEpoch_nonneg_iff hexists).mpr hfirst⟩
  · rintro ⟨⟨hexists, -, hlast⟩, hnonneg⟩
    exact ⟨hexists, (sinceEpoch_nonneg_iff hexists).mp hnonneg, hlast⟩

end Day

/-! ### Times -/

section Times

variable {s s' : String} {text : List Char} {n : Nat} {d d' : Day} {time time' : UInt64}

/-- **A number is typed**, with blanks around it or none. -/
def TypedAsNumber (s : String) (n : Nat) : Prop :=
  ∃ text, Trimmed s.toList text ∧ Decimal.Written text n

/-- **A day is typed**, with blanks around it or none. -/
def TypedAsDay (s : String) (d : Day) : Prop :=
  ∃ text, Trimmed s.toList text ∧ Day.Written text d

theorem typedAsNumber_iff : TypedAsNumber s n ↔ Decimal.Written (trimChars s.toList) n := by
  simp only [TypedAsNumber, trimmed_iff, exists_eq_left]

theorem typedAsDay_iff : TypedAsDay s d ↔ Day.Written (trimChars s.toList) d := by
  simp only [TypedAsDay, trimmed_iff, exists_eq_left]

/-- A number is written without a hyphen. -/
theorem hyphen_notMem_of_written (h : Decimal.Written text n) : '-' ∉ text := by
  obtain ⟨ds, hsign, -, hdenotes⟩ := h
  have hds : '-' ∉ ds := fun hmem => absurd (hdenotes.isDigit hmem) (by decide)
  rcases hsign with rfl | rfl
  · exact hds
  · rw [List.mem_cons, not_or]
    exact ⟨by decide, hds⟩

/-- **No text is both** a number and a day. -/
theorem TypedAsNumber.not_typedAsDay (h : TypedAsNumber s n) : ¬ TypedAsDay s d := by
  rw [typedAsNumber_iff] at h
  rw [typedAsDay_iff]
  exact fun hday => hyphen_notMem_of_written h hday.hyphen_mem

theorem TypedAsNumber.parseTime_eq (h : TypedAsNumber s time.toNat) : parseTime s = .ok time := by
  have hword := Decimal.parseWord?_eq_some_iff.mpr ⟨typedAsNumber_iff.mp h, time.toNat_lt⟩
  rw [parseTime, hword]
  exact congrArg _ UInt64.ofNat_toNat

/-- The seconds before a day that is read fit into sixty-four bits. -/
theorem toNat_ofNat_seconds (h : d.isValid = true) :
    (UInt64.ofNat (secondsPerDay.toNat * d.sinceEpoch.toNat)).toNat =
      86400 * d.sinceEpoch.toNat := by
  obtain ⟨hexists, -, hlast⟩ := Day.isValid_iff.mp h
  have hlt := Day.sinceEpoch_lt hexists hlast
  have hseconds : secondsPerDay.toNat = 86400 := rfl
  rw [hseconds, UInt64.toNat_ofNat_of_lt']
  have hsize : UInt64.size = 18446744073709551616 := rfl
  omega

/-- **A day stands for its first second**, if it can be counted to, and for no time otherwise. -/
theorem TypedAsDay.parseTime_eq_ok_iff (h : TypedAsDay s d) :
    parseTime s = .ok time ↔ d.Countable ∧ time.toNat = 86400 * d.sinceEpoch.toNat := by
  have hnone : Decimal.parseWord? (trimChars s.toList) = none := by
    rw [Option.eq_none_iff_forall_ne_some]
    intro n hword
    have hnumber := typedAsNumber_iff.mpr (Decimal.parseWord?_eq_some_iff.mp hword).1
    exact hnumber.not_typedAsDay h
  rw [Day.countable_iff, parseTime, hnone, Day.parse_of_written (typedAsDay_iff.mp h)]
  by_cases hvalid : d.isValid = true
  · simp only [if_pos hvalid]
    by_cases hearly : d.sinceEpoch < 0
    · simp only [if_pos hearly, reduceCtorEq, false_iff]
      rintro ⟨⟨-, hnonneg⟩, -⟩
      exact absurd hearly (Int.not_lt.mpr hnonneg)
    · simp only [if_neg hearly, Except.ok.injEq, ← UInt64.toNat_inj, toNat_ofNat_seconds hvalid]
      exact ⟨fun htime => ⟨⟨hvalid, Int.not_lt.mp hearly⟩, htime.symm⟩, fun htime => htime.2.symm⟩
  · simp only [if_neg hvalid, reduceCtorEq, false_iff]
    exact fun htime => hvalid htime.1.1

/-- **A text is read if it is typed** in one of the two ways. -/
theorem parseTime_eq_ok_iff :
    parseTime s = .ok time ↔
      TypedAsNumber s time.toNat ∨
        ∃ d, TypedAsDay s d ∧ d.Countable ∧ time.toNat = 86400 * d.sinceEpoch.toNat := by
  constructor
  · intro h
    have hread := h
    rw [parseTime] at h
    split at h
    · next n hword =>
      obtain ⟨hwritten, hlt⟩ := Decimal.parseWord?_eq_some_iff.mp hword
      cases h
      rw [UInt64.toNat_ofNat_of_lt' hlt]
      exact Or.inl (typedAsNumber_iff.mpr hwritten)
    · split at h
      · cases h
      · next d hparse =>
        have hday := typedAsDay_iff.mpr (Day.parse_eq_ok_iff.mp hparse).1
        exact Or.inr ⟨d, hday, hday.parseTime_eq_ok_iff.mp hread⟩
  · rintro (hnumber | ⟨d, hday, htime⟩)
    · exact hnumber.parseTime_eq
    · exact hday.parseTime_eq_ok_iff.mpr htime

/-- The number of a day that can be counted to is found by counting. -/
theorem Day.Countable.eq_seconds_iff (h : d.Countable) :
    n = 86400 * d.sinceEpoch.toNat ↔ ∃ days, Day.next^[days] Day.epoch = d ∧ n = 86400 * days := by
  have hnonneg := (Day.countable_iff.mp h).2
  simp only [Day.iterate_next_eq_iff h.1]
  constructor
  · intro hn
    exact ⟨d.sinceEpoch.toNat, (Int.toNat_of_nonneg hnonneg).symm, hn⟩
  · rintro ⟨days, hdays, hn⟩
    rw [hn, hdays, Int.toNat_natCast]

/-- A day is read if it can be counted to. -/
theorem TypedAsDay.isRead_iff (h : TypedAsDay s d) :
    (∃ time, parseTime s = .ok time) ↔ d.Countable := by
  simp only [h.parseTime_eq_ok_iff]
  constructor
  · rintro ⟨-, hcount, -⟩
    exact hcount
  · intro hcount
    have hseconds := toNat_ofNat_seconds (Day.countable_iff.mp hcount).1
    exact ⟨_, hcount, hseconds⟩

/-- **Times are read.**

* A text is read exactly if a number of seconds is typed, which is the time, or if a day is typed
  that exists and is neither before 1970 nor after the year 262142. The time is then 86400 for each
  step from the first of January 1970 to the day.
* No text is both a number and a day.
* A day that does not exist is not read, and no day outside of these years.
* Of two days that are read the later one has the larger time, and only it; the time of the next day
  is larger by 86400. -/
theorem parseTime_reads (s : String) :
    (∀ time, parseTime s = .ok time ↔
      TypedAsNumber s time.toNat ∨
        ∃ d, TypedAsDay s d ∧ d.Countable ∧
          ∃ days, Day.next^[days] Day.epoch = d ∧ time.toNat = 86400 * days) ∧
      (∀ n d, TypedAsNumber s n → ¬ TypedAsDay s d) ∧
      (∀ d, TypedAsDay s d → ((∃ time, parseTime s = .ok time) ↔ d.Countable)) ∧
      ∀ s' d d' time time', TypedAsDay s d → TypedAsDay s' d' →
        parseTime s = .ok time → parseTime s' = .ok time' →
        (time < time' ↔ d.Before d') ∧ (d' = d.next → time'.toNat = time.toNat + 86400) := by
  refine ⟨fun time => ?_, fun n d hnumber => hnumber.not_typedAsDay, fun d hday => hday.isRead_iff,
    fun s' d d' time time' hday hday' htime htime' => ?_⟩
  · rw [parseTime_eq_ok_iff]
    refine or_congr_right (exists_congr fun d => and_congr_right fun _ => ?_)
    exact and_congr_right fun hcount => hcount.eq_seconds_iff
  · obtain ⟨hcount, hseconds⟩ := hday.parseTime_eq_ok_iff.mp htime
    obtain ⟨hcount', hseconds'⟩ := hday'.parseTime_eq_ok_iff.mp htime'
    have hnonneg := (Day.countable_iff.mp hcount).2
    have hnonneg' := (Day.countable_iff.mp hcount').2
    constructor
    · rw [UInt64.lt_iff_toNat_lt, ← Day.sinceEpoch_lt_iff hcount.1 hcount'.1]
      omega
    · intro hnext
      have hstep := Day.sinceEpoch_next hcount.1
      rw [← hnext] at hstep
      omega

end Times

/-- In 2024 the first of March comes a day after the twenty-ninth of February, which the year before
does not have. -/
theorem parseTime_reads_of_leapYear :
    (∃ time time', parseTime " 2024-02-29 " = .ok time ∧ parseTime "+2024- 3-1" = .ok time' ∧
        time < time' ∧ time'.toNat = time.toNat + 86400) ∧
      ¬ ∃ time, parseTime "2023-02-29" = .ok time := by
  have hfebruary : TypedAsDay " 2024-02-29 " ⟨2024, 2, 29⟩ :=
    typedAsDay_iff.mpr (Day.parse_eq_ok_iff.mp (by rfl)).1
  have hmarch : TypedAsDay "+2024- 3-1" ⟨2024, 3, 1⟩ :=
    typedAsDay_iff.mpr (Day.parse_eq_ok_iff.mp (by rfl)).1
  have hmissing : TypedAsDay "2023-02-29" ⟨2023, 2, 29⟩ := by
    have hnumber : ∀ {width ds}, ds.all Char.isDigit = true → ds ≠ [] → ds.length ≤ width →
        Day.NumberWritten width ds (Decimal.value ds) := fun hdigits hne hlength =>
      ⟨Decimal.denotes_iff.mpr ⟨List.all_eq_true.mp hdigits, rfl⟩, hne, hlength⟩
    have hblank : Day.Blanks [] := fun c hc => absurd hc List.not_mem_nil
    have hyear : Day.YearWritten ['2', '0', '2', '3'] 2023 :=
      .unsigned (hnumber (by decide) (by decide) (by decide))
    have hmonth : Day.NumberWritten 2 ['0', '2'] 2 := hnumber (by decide) (by decide) (by decide)
    have hday : Day.NumberWritten 2 ['2', '9'] 29 := hnumber (by decide) (by decide) (by decide)
    exact typedAsDay_iff.mpr (.parts hblank hyear hblank hmonth hblank hday)
  have hread : parseTime " 2024-02-29 " = .ok 1709164800 := by rfl
  have hread' : parseTime "+2024- 3-1" = .ok 1709251200 := by rfl
  obtain ⟨-, -, -, htwo⟩ := parseTime_reads " 2024-02-29 "
  obtain ⟨horder, hnext⟩ := htwo "+2024- 3-1" _ _ _ _ hfebruary hmarch hread hread'
  obtain ⟨-, -, hexists, -⟩ := parseTime_reads "2023-02-29"
  refine ⟨⟨_, _, hread, hread', horder.mpr (Or.inr ⟨rfl, Or.inl (by decide)⟩), hnext rfl⟩, ?_⟩
  rw [hexists _ hmissing]
  exact fun hcount => absurd hcount.1.day_le (by decide)

end LiveSearch
