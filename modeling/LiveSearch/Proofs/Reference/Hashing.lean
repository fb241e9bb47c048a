import LiveSearch.Reference
import Mathlib.Algebra.Ring.Nat
import Mathlib.Data.List.TakeDrop

/-!
# What is hashed for a reference

Feed and identifier are hashed as one run of bytes, and nothing stands between them. What keeps them
apart is the length of the feed in front: read as a number it says where the feed ends, whatever the
bytes of the two texts are, and even if the identifier begins with bytes that look like a length
themselves. So the run can be taken apart again (`Reference.takeApart`), and **two items have the
same bytes hashed only if they agree in feed and identifier** (`Reference.hashedBytes_determine`).

The length has eight bytes, so this is said of feeds that are shorter than `2 ^ 64` bytes. What is
left for two items with one reference is a collision of the digest, in the eight bytes of it that a
reference keeps (`Reference.Collide`).
-/

namespace LiveSearch

/-! ### Words and bytes -/

namespace Reference

/-- The number that bytes stand for, lowest byte first. -/
def littleEndian (bytes : List UInt8) : Nat :=
  bytes.foldr (fun byte n => byte.toNat + 256 * n) 0

theorem littleEndian_cons (byte : UInt8) (bytes : List UInt8) :
    littleEndian (byte :: bytes) = byte.toNat + 256 * littleEndian bytes := rfl

theorem littleEndian_concat (bytes : List UInt8) (byte : UInt8) :
    littleEndian (bytes ++ [byte]) = littleEndian bytes + 256 ^ bytes.length * byte.toNat := by
  induction bytes with
  | nil => simp [littleEndian]
  | cons first rest ih =>
    rw [List.cons_append, littleEndian_cons, ih, littleEndian_cons, List.length_cons,
      Nat.pow_succ', Nat.mul_add, Nat.mul_assoc, Nat.add_assoc]

theorem littleEndian_lt (bytes : List UInt8) : littleEndian bytes < 256 ^ bytes.length := by
  induction bytes with
  | nil => exact Nat.one_pos
  | cons first rest ih =>
    have hfirst := first.toNat_lt
    rw [littleEndian_cons, List.length_cons, Nat.pow_succ]
    omega

/-- **Bytes are determined by their number**, if it is known how many there are. -/
theorem littleEndian_inj {xs ys : List UInt8} (hlength : xs.length = ys.length)
    (hsame : littleEndian xs = littleEndian ys) : xs = ys := by
  induction xs generalizing ys with
  | nil => exact (List.length_eq_zero_iff.mp hlength.symm).symm
  | cons x xs ih =>
    cases ys with
    | nil => cases hlength
    | cons y ys =>
      have hx := x.toNat_lt
      have hy := y.toNat_lt
      rw [littleEndian_cons, littleEndian_cons] at hsame
      have hfirst : x = y := UInt8.toNat_inj.mp (by omega)
      have hrest : littleEndian xs = littleEndian ys := by omega
      rw [hfirst, ih (Nat.succ.inj hlength) hrest]

/-- The bytes of a number, cut off after so many of them. -/
theorem littleEndian_places (count n : Nat) :
    littleEndian ((List.range count).map fun i => (n / Nat.pow 256 i % 256).toUInt8) =
      n % 256 ^ count := by
  induction count with
  | zero => rw [Nat.pow_zero, Nat.mod_one]; rfl
  | succ count ih =>
    have hbyte : (n / Nat.pow 256 count % 256).toUInt8.toNat = n / 256 ^ count % 256 :=
      UInt8.toNat_ofNat_of_lt' (Nat.mod_lt _ (by decide))
    rw [List.range_succ, List.map_append, List.map_singleton, littleEndian_concat, ih, hbyte,
      List.length_map, List.length_range, Nat.mod_pow_succ]

theorem length_bytesOfWord (word : UInt64) : (bytesOfWord word).length = 8 := by
  rw [bytesOfWord, List.length_map, List.length_range]

/-- **A word is read back** from its eight bytes, whatever follows them. -/
theorem wordOfBytes_bytesOfWord_append (word : UInt64) (rest : List UInt8) :
    wordOfBytes (bytesOfWord word ++ rest) = word := by
  have hnumber : littleEndian (bytesOfWord word) = word.toNat := by
    rw [bytesOfWord, littleEndian_places]
    exact Nat.mod_eq_of_lt word.toNat_lt
  rw [wordOfBytes, List.take_left' (length_bytesOfWord word)]
  exact (congrArg UInt64.ofNat hnumber).trans UInt64.ofNat_toNat

/-- The words of two runs are the same if their first eight bytes are. -/
theorem wordOfBytes_eq_iff {xs ys : List UInt8} (hx : 8 ≤ xs.length) (hy : 8 ≤ ys.length) :
    wordOfBytes xs = wordOfBytes ys ↔ xs.take 8 = ys.take 8 := by
  have hnumber : ∀ zs : List UInt8, 8 ≤ zs.length →
      (zs.take 8).length = 8 ∧ (wordOfBytes zs).toNat = littleEndian (zs.take 8) := by
    intro zs hzs
    have hlength : (zs.take 8).length = 8 := by rw [List.length_take]; omega
    have hlt := littleEndian_lt (zs.take 8)
    rw [hlength] at hlt
    exact ⟨hlength, UInt64.toNat_ofNat_of_lt' hlt⟩
  obtain ⟨hxlength, hxnumber⟩ := hnumber xs hx
  obtain ⟨hylength, hynumber⟩ := hnumber ys hy
  constructor
  · intro hsame
    rw [← UInt64.toNat_inj, hxnumber, hynumber] at hsame
    exact littleEndian_inj (hxlength.trans hylength.symm) hsame
  · intro hsame
    rw [wordOfBytes, wordOfBytes, hsame]

end Reference

/-! ### Texts and bytes -/

namespace Text

/-- A list of bytes is filled from its end: it has what is before, and the bytes from the place that
has been come to. -/
theorem toList_loop_eq (bytes : ByteArray) (i : Nat) (before : List UInt8) :
    ByteArray.toList.loop bytes i before = before.reverse ++ bytes.data.toList.drop i := by
  fun_induction ByteArray.toList.loop bytes i before with
  | case1 i before hlt ih =>
    have hget : bytes.get! i = bytes.data.toList.get ⟨i, hlt⟩ := by simp [ByteArray.get!, hlt]
    rw [ih, List.reverse_cons, List.append_assoc, List.singleton_append, hget, List.get_eq_getElem,
      List.cons_getElem_drop_succ]
  | case2 i before hge =>
    have hend : bytes.data.toList.length ≤ i := Nat.not_lt.mp hge
    rw [List.drop_eq_nil_of_le hend, List.append_nil]

theorem toList_eq_data (bytes : ByteArray) : bytes.toList = bytes.data.toList :=
  toList_loop_eq bytes 0 []

/-- A text takes as many bytes as it is long in bytes. -/
theorem length_toUTF8 (s : String) : s.toUTF8.toList.length = s.utf8ByteSize := by
  rw [toList_eq_data]
  rfl

/-- **A text is determined by its bytes.** -/
theorem toUTF8_inj {s t : String} : s.toUTF8.toList = t.toUTF8.toList ↔ s = t := by
  rw [toList_eq_data, toList_eq_data, Array.toList_inj, ← ByteArray.ext_iff]
  exact String.toByteArray_inj

end Text

open Text

namespace Reference

/-! ### Taking the bytes apart -/

/-- **The two texts in some bytes**: as many bytes as the first eight say, and all that follow. -/
def takeApart (bytes : List UInt8) : List UInt8 × List UInt8 :=
  (bytes.drop 8).splitAt (wordOfBytes bytes).toNat

/-- **What is hashed can be taken apart** into the bytes of feed and identifier. -/
theorem takeApart_hashedBytes {feed : String} (h : feed.utf8ByteSize < 2 ^ 64) (guid : String) :
    takeApart (hashedBytes feed guid) = (feed.toUTF8.toList, guid.toUTF8.toList) := by
  have hlength : (UInt64.ofNat feed.utf8ByteSize).toNat = feed.toUTF8.toList.length := by
    rw [length_toUTF8]
    exact UInt64.toNat_ofNat_of_lt' h
  rw [takeApart, hashedBytes, List.append_assoc, wordOfBytes_bytesOfWord_append,
    List.drop_left' (length_bytesOfWord _), hlength, List.splitAt_eq, List.take_left,
    List.drop_left]

/-- **The bytes determine feed and identifier.** -/
theorem hashedBytes_eq_iff {feed feed' : String} (h : feed.utf8ByteSize < 2 ^ 64)
    (h' : feed'.utf8ByteSize < 2 ^ 64) (guid guid' : String) :
    hashedBytes feed guid = hashedBytes feed' guid' ↔ feed = feed' ∧ guid = guid' := by
  constructor
  · intro hsame
    have hparts := congrArg takeApart hsame
    rw [takeApart_hashedBytes h, takeApart_hashedBytes h', Prod.mk.injEq] at hparts
    exact ⟨toUTF8_inj.mp hparts.1, toUTF8_inj.mp hparts.2⟩
  · rintro ⟨rfl, rfl⟩
    rfl

/-! ### Collisions -/

/-- **Two runs of bytes collide** if they differ, and the first eight bytes of their digests do
not. -/
def Collide (xs ys : List UInt8) : Prop :=
  xs ≠ ys ∧ (Blake3.digest xs).take 8 = (Blake3.digest ys).take 8

theorem length_digest (bytes : List UInt8) : (Blake3.digest bytes).length = 32 := by
  have hword : ∀ word : UInt32, (Blake3.bytesOfWord word).length = 4 := fun _ => rfl
  rw [Blake3.digest, List.length_flatMap]
  simp only [hword, List.map_const', List.sum_replicate_nat, Vector.length_toList]

/-- A reference is the first eight bytes of a digest. -/
theorem derive_eq_iff (feed guid feed' guid' : String) :
    derive feed guid = derive feed' guid' ↔
      (Blake3.digest (hashedBytes feed guid)).take 8 =
        (Blake3.digest (hashedBytes feed' guid')).take 8 := by
  rw [derive, derive, Reference.mk.injEq, wordOfBytes_eq_iff] <;> rw [length_digest] <;> decide

/-- **What is hashed for a reference determines feed and identifier.** The bytes of two items, whose
feeds are shorter than `2 ^ 64` bytes, are the same only if the items agree in feed and identifier.
So two items that do not agree have one reference only if their bytes collide. -/
theorem hashedBytes_determine (feed guid feed' guid' : String) (h : feed.utf8ByteSize < 2 ^ 64)
    (h' : feed'.utf8ByteSize < 2 ^ 64) :
    (hashedBytes feed guid = hashedBytes feed' guid' ↔ feed = feed' ∧ guid = guid') ∧
      (derive feed guid = derive feed' guid' ↔
        (feed = feed' ∧ guid = guid') ∨
          Collide (hashedBytes feed guid) (hashedBytes feed' guid')) := by
  have hbytes := hashedBytes_eq_iff h h' guid guid'
  refine ⟨hbytes, ?_⟩
  rw [derive_eq_iff, Collide, Ne, hbytes]
  constructor
  · intro hdigest
    by_cases hsame : feed = feed' ∧ guid = guid'
    · exact Or.inl hsame
    · exact Or.inr ⟨hsame, hdigest⟩
  · rintro (⟨rfl, rfl⟩ | ⟨-, hdigest⟩)
    · rfl
    · exact hdigest

/-- An identifier that begins with the bytes of a length, and the same characters with the border
moved behind them: the bytes differ, although the texts run on alike. -/
theorem hashedBytes_determine_of_moved_border :
    let mark := "\x02\x00\x00\x00\x00\x00\x00\x00"
    let bytes := hashedBytes "" (mark ++ "ab")
    let bytes' := hashedBytes mark "ab"
    ("".utf8ByteSize < 2 ^ 64 ∧ mark.utf8ByteSize < 2 ^ 64) ∧
      bytes.drop 8 = bytes'.drop 8 ∧ bytes ≠ bytes' ∧
      (derive "" (mark ++ "ab") = derive mark "ab" ↔ Collide bytes bytes') := by
  intro mark bytes bytes'
  have hempty : "".utf8ByteSize < 2 ^ 64 := by decide
  have hmark : mark.utf8ByteSize < 2 ^ 64 := by decide
  have hdiffer : ¬("" = mark ∧ mark ++ "ab" = "ab") := by decide
  obtain ⟨hbytes, hderive⟩ := hashedBytes_determine "" (mark ++ "ab") mark "ab" hempty hmark
  refine ⟨⟨hempty, hmark⟩, ?_, fun hsame => hdiffer (hbytes.mp hsame), ?_⟩
  · decide +kernel
  · exact hderive.trans (or_iff_right hdiffer)

end Reference

end LiveSearch
