import LiveSearch.Proofs.Corpus.Contents
import LiveSearch.Proofs.Reference.Reading

/-!
# Abbreviated references

A stored item is named by the first digits of its reference, as many as are needed to tell it from
the others. The digits are compared as texts, in lower case and with zeros in front, but what they
mean is a range of numbers: **the references that begin with some digits** are those whose number,
with the last digits cut off, is the number that the digits denote
(`Reference.isPrefixOf_digits_iff`). No digits at all mean every reference, and sixteen digits mean
one.

A store keeps its references in ascending order, so what is found is in ascending order too, and it
has no reference twice. One reference that is found is the one meant; otherwise there is a failure,
which says whether there was none or how many there were (`Store.finds_abbreviated`).
-/

namespace LiveSearch

open Text

namespace Reference

variable {r r' : Reference} {digits : List Char} {count x : Nat}

/-- **A reference begins with some digits** if these denote what is left of its number. -/
theorem isPrefixOf_digits_iff (hdigits : Hex.Denotes digits x) (hlength : digits.length ≤ 16) :
    (lowercase digits).isPrefixOf r.digits = true ↔
      r.value.toNat / 16 ^ (16 - digits.length) = x := by
  rw [List.isPrefixOf_iff_prefix, hdigits.lowercase_eq]
  exact Hex.fixed_isPrefix_iff hlength hdigits.lt r.value_lt

/-- The first digits of a reference denote what is left of its number. -/
theorem denotes_take_digits (r : Reference) (h : count ≤ 16) :
    Hex.Denotes (r.digits.take count) (r.value.toNat / 16 ^ (16 - count)) := by
  rw [digits, Hex.take_fixed h]
  exact Hex.denotes_fixed (Hex.div_lt_pow h r.value_lt)

theorem length_take_digits (r : Reference) (h : count ≤ 16) :
    (r.digits.take count).length = count := by
  rw [List.length_take, length_digits, Nat.min_eq_left h]

/-- References share their first digits if what is left of their numbers is the same. -/
theorem take_digits_eq_iff (h : count ≤ 16) :
    r'.digits.take count = r.digits.take count ↔
      r'.value.toNat / 16 ^ (16 - count) = r.value.toNat / 16 ^ (16 - count) := by
  rw [Reference.digits, Reference.digits, Hex.take_fixed h, Hex.take_fixed h]
  exact Hex.fixed_inj (Hex.div_lt_pow h r'.value_lt) (Hex.div_lt_pow h r.value_lt)

/-- All sixteen digits are those of one reference. -/
theorem eq_of_digits_eq (h : r'.digits = r.digits) : r' = r := by
  have hvalue := (Hex.fixed_inj r'.value_lt r.value_lt).mp h
  obtain ⟨value⟩ := r
  obtain ⟨value'⟩ := r'
  exact congrArg Reference.mk (UInt64.toNat_inj.mp hvalue)

/-- **The number of digits of an abbreviation** is at least six and at most sixteen. -/
def shownDigits (count : Nat) : Nat :=
  max 6 (min count 16)

theorem shownDigits_le (count : Nat) : shownDigits count ≤ 16 := by
  rw [shownDigits]
  omega

/-- An abbreviation is a number sign and the first digits, as many as it shows. -/
theorem spelled_abbreviated (r : Reference) (count : Nat) :
    Spelled ("#" ++ r.abbreviated count) (r.digits.take (shownDigits count)) := by
  have htake : r.digits.take (max leastDigits count) = r.digits.take (shownDigits count) := by
    rw [List.take_eq_take_iff, length_digits, shownDigits, leastDigits]
    omega
  have hshown : (r.abbreviated count).toList = r.digits.take (shownDigits count) := by
    rw [abbreviated, String.toList_ofList, htake]
  rw [← hshown]
  exact spelled_sign_append (r.abbreviated count)

end Reference

namespace Store

open Reference

variable {s : Store} {text : String} {ref : Reference}

/-! ### What is found in a store -/

/-- What is found is in ascending order. -/
theorem pairwise_findByAbbreviation (h : s.items.Ascending) (text : String) :
    (s.findByAbbreviation text).Pairwise (·.value < ·.value) := by
  have hkeys : s.items.keys.Pairwise (·.value < ·.value) := by
    rw [Table.keys, List.pairwise_map]
    refine List.Pairwise.imp (fun {a b} hlt => ?_) h
    exact UInt64.lt_iff_toNat_lt.mpr (Nat.compare_eq_lt.mp hlt)
  exact hkeys.filter _

/-- **What is found begins with the digits.** -/
theorem mem_findByAbbreviation {digits : List Char} {x : Nat} (htext : Spelled text digits)
    (hdigits : Hex.Denotes digits x) (hlength : digits.length ≤ 16) :
    ref ∈ s.findByAbbreviation text ↔
      ref ∈ s.items.keys ∧ ref.value.toNat / 16 ^ (16 - digits.length) = x := by
  rw [findByAbbreviation, List.mem_filter, htext.withoutSign_eq (hdigits.not_mem rfl),
    isPrefixOf_digits_iff hdigits hlength]

/-- One reference that is found is the one that is meant. -/
theorem findReference_eq_ok_iff :
    s.findReference text = .ok ref ↔ s.findByAbbreviation text = [ref] := by
  rw [findReference]
  split <;> simp_all

theorem findReference_eq_notFound_iff :
    s.findReference text = .error (.notFound "news item" text) ↔ s.findByAbbreviation text = [] := by
  rw [findReference]
  split <;> simp_all

theorem findReference_eq_ambiguous_iff {n : Nat} :
    s.findReference text = .error (.ambiguous text n) ↔
      2 ≤ n ∧ (s.findByAbbreviation text).length = n := by
  rw [findReference]
  split
  · next hnone =>
    simp only [hnone, List.length_nil, Except.error.injEq, reduceCtorEq, false_iff]
    omega
  · next r hone =>
    simp only [hone, List.length_singleton, reduceCtorEq, false_iff]
    omega
  · next hnone hone =>
    have hseveral : 2 ≤ (s.findByAbbreviation text).length := by
      match hfound : s.findByAbbreviation text with
      | [] => exact absurd hfound hnone
      | [r] => exact absurd hfound (hone r)
      | _ :: _ :: _ => simp
    simp only [Except.error.injEq, Failure.ambiguous.injEq, true_and]
    omega

/-! ### What digits stand for -/

/-- **What some digits stand for**: the references that something is stored under and that begin
with the digits, so many of them and of this value. -/
def Meant (acts : List Act) (count x : Nat) (ref : Reference) : Prop :=
  (held acts ref).isSome = true ∧ ref.value.toNat / 16 ^ (16 - count) = x

/-- **A text finds what is meant**: all of it, in ascending order; the one reference, if it is one;
and a failure that says so if there is none, and how many there are if there are several. -/
structure Finds (s : Store) (text : String) (meant : Reference → Prop) : Prop where
  /-- What is found is in ascending order. -/
  ascends : (s.findByAbbreviation text).Pairwise (·.value < ·.value)
  /-- What is found is what is meant. -/
  found : ∀ ref, ref ∈ s.findByAbbreviation text ↔ meant ref
  /-- One reference is found if it is the only one. -/
  one : ∀ ref, s.findReference text = .ok ref ↔ ∀ ref', meant ref' ↔ ref' = ref
  /-- Nothing is found if nothing is meant. -/
  none : s.findReference text = .error (.notFound "news item" text) ↔ ∀ ref, ¬meant ref
  /-- Several references are counted. -/
  several : ∀ n, s.findReference text = .error (.ambiguous text n) ↔
    2 ≤ n ∧ (s.findByAbbreviation text).length = n

theorem finds_of_mem {meant : Reference → Prop} (h : s.items.Ascending)
    (hfound : ∀ ref, ref ∈ s.findByAbbreviation text ↔ meant ref) : s.Finds text meant := by
  have hascends := pairwise_findByAbbreviation h text
  have hnodup : (s.findByAbbreviation text).Nodup := by
    refine hascends.imp fun {a b} hlt heq => ?_
    rw [heq] at hlt
    exact UInt64.lt_irrefl b.value hlt
  refine ⟨hascends, hfound, fun ref => ?_, ?_, fun n => findReference_eq_ambiguous_iff⟩
  · rw [findReference_eq_ok_iff, ← List.perm_singleton,
      List.perm_ext_iff_of_nodup hnodup (List.nodup_singleton ref)]
    simp only [hfound, List.mem_singleton]
  · rw [findReference_eq_notFound_iff, List.eq_nil_iff_forall_not_mem]
    simp only [hfound]

theorem ascending_acted (acts : List Act) : (acted acts).items.Ascending := by
  rw [acted_eq_allToStore]
  exact Write.ascending_allToStore InStep.empty.ascending _

/-- **Digits find what they stand for.** -/
theorem finds_meant (acts : List Act) {digits : List Char} {x : Nat} (htext : Spelled text digits)
    (hdigits : Hex.Denotes digits x) (hlength : digits.length ≤ 16) :
    (acted acts).Finds text (Meant acts digits.length x) := by
  refine finds_of_mem (ascending_acted acts) fun ref => ?_
  rw [mem_findByAbbreviation htext hdigits hlength, mem_keys_acted]
  rfl

/-- **A reference is alone** with its first digits: no other stored one begins with them. -/
def Alone (acts : List Act) (count : Nat) (ref : Reference) : Prop :=
  ∀ ref', (held acts ref').isSome = true → ref'.digits.take count = ref.digits.take count →
    ref' = ref

section Digits

variable {acts : List Act} {count : Nat}

/-- The first digits of a stored reference find it, together with those that share them. -/
theorem finds_of_digits (hcount : count ≤ 16) (htext : Spelled text (ref.digits.take count)) :
    (acted acts).Finds text (Meant acts count (ref.value.toNat / 16 ^ (16 - count))) := by
  have hlength := ref.length_take_digits hcount
  have hfinds := finds_meant acts htext (ref.denotes_take_digits hcount) (hlength.trans_le hcount)
  rwa [hlength] at hfinds

/-- **The first digits of a stored reference find it** if it is alone with them. -/
theorem findReference_eq_ok_iff_alone (hstored : (held acts ref).isSome = true)
    (hcount : count ≤ 16) (htext : Spelled text (ref.digits.take count)) :
    (acted acts).findReference text = .ok ref ↔ Alone acts count ref := by
  rw [(finds_of_digits hcount htext).one]
  constructor
  · intro honly ref' hstored' hshared
    exact (honly ref').mp ⟨hstored', (take_digits_eq_iff hcount).mp hshared⟩
  · intro halone ref'
    constructor
    · rintro ⟨hstored', hsame⟩
      exact halone ref' hstored' ((take_digits_eq_iff hcount).mpr hsame)
    · rintro rfl
      exact ⟨hstored, rfl⟩

/-- **They are ambiguous** if it is not. -/
theorem findReference_eq_ambiguous_iff_not_alone (hstored : (held acts ref).isSome = true)
    (hcount : count ≤ 16) (htext : Spelled text (ref.digits.take count)) :
    (∃ n, (acted acts).findReference text = .error (.ambiguous text n)) ↔
      ¬Alone acts count ref := by
  have halone := findReference_eq_ok_iff_alone hstored hcount htext
  rw [← halone]
  constructor
  · rintro ⟨n, hn⟩ hok
    rw [hn] at hok
    cases hok
  · intro hnot
    have hmem : ref ∈ (acted acts).findByAbbreviation text :=
      ((finds_of_digits hcount htext).found ref).mpr ⟨hstored, rfl⟩
    refine ⟨_, findReference_eq_ambiguous_iff.mpr ⟨?_, rfl⟩⟩
    -- the reference is found, and it is not the only one
    match hfound : (acted acts).findByAbbreviation text with
    | [] => exact absurd (hfound ▸ hmem) List.not_mem_nil
    | [r] =>
      rw [hfound, List.mem_singleton] at hmem
      exact absurd (findReference_eq_ok_iff.mpr (hmem ▸ hfound)) hnot
    | _ :: _ :: _ => simp

end Digits

/-- **Abbreviations find what they stand for.** Let items be put into a store and removed from it in
any order. Up to sixteen hexadecimal digits of either case, behind one number sign or none, find the
stored references whose number without its last digits is the number that the digits denote, in
ascending order; they name a reference if it is the only one, and otherwise there is a failure that
says that there is none, or how many there are. So the abbreviation of a stored reference names it
if no other one shares the digits that are shown, and is ambiguous if there is another one; and all
its digits always name it. -/
theorem finds_abbreviated (acts : List Act) :
    (∀ (text : String) (digits : List Char) (x : Nat), Spelled text digits →
      Hex.Denotes digits x → digits.length ≤ 16 →
        (acted acts).Finds text (Meant acts digits.length x)) ∧
      ∀ ref, (held acts ref).isSome = true →
        (∀ n,
          ((acted acts).findReference ("#" ++ ref.abbreviated n) = .ok ref ↔
              Alone acts (shownDigits n) ref) ∧
            ((∃ count, (acted acts).findReference ("#" ++ ref.abbreviated n) =
                .error (.ambiguous ("#" ++ ref.abbreviated n) count)) ↔
              ¬Alone acts (shownDigits n) ref)) ∧
          (acted acts).findReference ref.full = .ok ref ∧
          (acted acts).findReference ("#" ++ ref.full) = .ok ref := by
  refine ⟨fun text digits x => finds_meant acts, fun ref hstored => ⟨fun n => ?_, ?_⟩⟩
  · exact ⟨findReference_eq_ok_iff_alone hstored (shownDigits_le n) (ref.spelled_abbreviated n),
      findReference_eq_ambiguous_iff_not_alone hstored (shownDigits_le n)
        (ref.spelled_abbreviated n)⟩
  · have hall : ∀ ref' : Reference, ref'.digits.take 16 = ref'.digits :=
      fun ref' => List.take_of_length_le ref'.length_digits.le
    have halone : Alone acts 16 ref := by
      intro ref' _ hsame
      rw [hall, hall] at hsame
      exact eq_of_digits_eq hsame
    constructor
    · refine (findReference_eq_ok_iff_alone hstored (Nat.le_refl 16) ?_).mpr halone
      rw [hall]
      exact ref.spelled_full
    · refine (findReference_eq_ok_iff_alone hstored (Nat.le_refl 16) ?_).mpr halone
      rw [hall]
      exact ref.spelled_sign_full

/-- Two stored references with the same first digits, and a third one that has been removed: six
digits in capitals are ambiguous, and find both; all digits of one of them name it. -/
theorem finds_abbreviated_of_shared :
    let first : Item :=
      { ref := ⟨0xabcdef0000000001⟩, feed := "f", guid := "a", title := "A", state := .unread
        received := 5 }
    let second : Item := { first with ref := ⟨0xabcdef0000000002⟩, guid := "b" }
    let third : Item := { first with ref := ⟨0xabcdef0000000003⟩, guid := "c" }
    let acts : List Act := [.putBatch [second, third], .put first, .remove third.ref]
    (Spelled "#ABCDEF" "ABCDEF".toList ∧ Hex.Denotes "ABCDEF".toList 0xabcdef ∧
        "ABCDEF".toList.length ≤ 16 ∧ (held acts first.ref).isSome = true) ∧
      (∀ ref, ref ∈ (acted acts).findByAbbreviation "#ABCDEF" ↔ Meant acts 6 0xabcdef ref) ∧
      (acted acts).findReference "#ABCDEF" = .error (.ambiguous "#ABCDEF" 2) ∧
      (acted acts).findReference ("#" ++ first.ref.full) = .ok first.ref := by
  intro first second third acts
  have htext : Spelled "#ABCDEF" "ABCDEF".toList := Or.inr (by decide +kernel)
  have hdigits : Hex.Denotes "ABCDEF".toList 0xabcdef := Hex.denotes_iff.mpr (by decide +kernel)
  have hlength : "ABCDEF".toList.length ≤ 16 := by decide +kernel
  have hstored : (held acts first.ref).isSome = true := rfl
  have hfinds := (finds_abbreviated acts).1 _ _ _ htext hdigits hlength
  have hcount : ((acted acts).findByAbbreviation "#ABCDEF").length = 2 := by decide +kernel
  refine ⟨⟨htext, hdigits, hlength, hstored⟩, hfinds.found, ?_, ?_⟩
  · exact (hfinds.several 2).mpr ⟨Nat.le_refl 2, hcount⟩
  · exact ((finds_abbreviated acts).2 first.ref hstored).2.2

end Store

end LiveSearch
