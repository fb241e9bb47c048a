import LiveSearch.Blake3
import LiveSearch.Text.ByteLength
import LiveSearch.Text.Decimal
import LiveSearch.Text.Hex

/-!
# References

An item is known by its **reference**, a number of sixty-four bits cut from the digest of the feed
that the item comes from and the identifier that the feed gives it. The length of the feed's address
is hashed in front of the two texts, so that the border between them cannot move.

* `Reference.hashedBytes` – the bytes that are hashed.
* `Reference.derive` – the reference of a feed and an identifier.
* `Reference.abbreviated` – the first few of its sixteen hexadecimal digits.
* `Reference.parse` – the reading of a full reference.
-/

namespace LiveSearch

open Text

/-- The **reference** of an item. -/
structure Reference where
  /-- The number that the reference is. -/
  value : UInt64
deriving DecidableEq, Inhabited

namespace Reference

/-! ### Deriving a reference -/

/-- The eight bytes of a word, lowest byte first. -/
def bytesOfWord (word : UInt64) : List UInt8 :=
  (List.range 8).map fun i => (word.toNat / Nat.pow 256 i % 256).toUInt8

/-- The word of the first eight bytes of a list, lowest byte first. -/
def wordOfBytes (bytes : List UInt8) : UInt64 :=
  UInt64.ofNat ((bytes.take 8).foldr (fun byte n => byte.toNat + 256 * n) 0)

/-- The bytes hashed for an item: the length of the feed in eight bytes, the feed, and the
identifier. -/
def hashedBytes (feed guid : String) : List UInt8 :=
  bytesOfWord (UInt64.ofNat feed.utf8ByteSize) ++ feed.toUTF8.toList ++ guid.toUTF8.toList

/-- The reference of the item that a feed calls `guid`. -/
def derive (feed guid : String) : Reference :=
  ⟨wordOfBytes (Blake3.digest (hashedBytes feed guid))⟩

/-! ### The written forms -/

/-- The sixteen lower-case hexadecimal digits of a reference. -/
def digits (r : Reference) : List Char :=
  Hex.fixed 16 r.value.toNat

/-- The sixteen digits as a text. -/
def full (r : Reference) : String :=
  String.ofList r.digits

/-- The least number of digits that an abbreviation shows. -/
def leastDigits : Nat := 6

/-- The first `count` digits, but never fewer than six. -/
def abbreviated (r : Reference) (count : Nat) : String :=
  String.ofList (r.digits.take (max leastDigits count))

/-- The shortest abbreviation. -/
def short (r : Reference) : String :=
  r.abbreviated leastDigits

/-- The form in which a reference is shown. -/
def display (r : Reference) : String :=
  "#" ++ r.short

/-! ### Reading -/

/-- Why a text is not a full reference. -/
inductive ParseError where
  /-- Without its number sign the text does not take sixteen bytes. -/
  | wrongLength (text : String)
  /-- The sixteen bytes are not a hexadecimal number. -/
  | invalidDigit (text : String)
deriving DecidableEq

/-- The sentence that describes why a text is not a full reference. -/
def ParseError.message : ParseError → String
  | .wrongLength text => "item reference must be 16 hex digits, got '" ++ text ++ "'"
  | .invalidDigit text =>
    "invalid item reference '" ++ text ++ "': invalid digit found in string"

/-- A text without the one number sign that it may begin with. -/
def withoutSign : List Char → List Char
  | '#' :: rest => rest
  | cs => cs

/-- Reads a full reference: sixteen bytes behind an optional number sign. The bytes are read as a
hexadecimal number, which may also begin with a plus sign. -/
def parse (s : String) : Except ParseError Reference :=
  let body := withoutSign s.toList
  if byteLength body ≠ 16 then .error (.wrongLength s)
  else
    match Hex.parse? (Decimal.withoutPlus body) with
    | some n => .ok ⟨UInt64.ofNat n⟩
    | none => .error (.invalidDigit s)

end Reference

end LiveSearch
