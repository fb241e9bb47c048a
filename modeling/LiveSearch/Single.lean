/-!
# Numbers of thirty-two bits

Scores are binary fractions in thirty-two bits: a sign, eight bits of exponent, twenty-three bits
of fraction. A `Single` *is* its bit pattern, and every notion below is read off the pattern in
exact integer arithmetic, so that a statement about scores is a statement about natural numbers.

* `Single.units` – the **magnitude** of a finite number as a multiple of the smallest positive
  one, `2 ^ (-149)`: all finite numbers are such multiples.
* `Single.lt` – the **numeric order**: the two zeros are one number, and a pattern that is not a
  number stands in no relation.
* `Single.rank` – the **total order** of all patterns, which also separates the two zeros and puts
  the patterns that are no number at the two ends.
-/

namespace LiveSearch

/-- A binary fraction of thirty-two bits, by its pattern. -/
structure Single where
  /-- Sign, exponent and fraction, from the highest bit to the lowest. -/
  bits : UInt32
deriving DecidableEq, Inhabited

namespace Single

/-- The place of the sign bit, `2 ^ 31`. -/
def signPlace : Nat :=
  0x80000000

/-- The place of the lowest bit of the exponent, `2 ^ 23`. -/
def exponentPlace : Nat :=
  0x800000

/-- The pattern without its sign. -/
def magnitude (x : Single) : Nat :=
  x.bits.toNat % signPlace

/-- Is the sign bit set? -/
def isNegative (x : Single) : Bool :=
  signPlace ≤ x.bits.toNat

/-- The magnitude of the infinities. -/
def infinityMagnitude : Nat :=
  0x7f800000

/-- Is the pattern no number? -/
def isNaN (x : Single) : Bool :=
  infinityMagnitude < x.magnitude

/-- Is the pattern one of the two infinities? -/
def isInfinite (x : Single) : Bool :=
  x.magnitude = infinityMagnitude

/-- Is the pattern a number other than the infinities? -/
def isFinite (x : Single) : Bool :=
  x.magnitude < infinityMagnitude

/-- The number with a sign and a magnitude. -/
def ofMagnitude (negative : Bool) (magnitude : Nat) : Single :=
  ⟨UInt32.ofNat (magnitude + if negative then signPlace else 0)⟩

/-- Zero. -/
def zero : Single :=
  ⟨0⟩

/-- The pattern that stands for a result that is no number. -/
def nan : Single :=
  ⟨0x7fc00000⟩

/-- The infinity of a sign. -/
def infinity (negative : Bool) : Single :=
  ofMagnitude negative infinityMagnitude

/-- The magnitude of a finite number as a multiple of `2 ^ (-149)`. -/
def units (x : Single) : Nat :=
  let exponent := x.magnitude / exponentPlace
  let fraction := x.magnitude % exponentPlace
  if exponent = 0 then fraction else (exponentPlace + fraction) * Nat.pow 2 (exponent - 1)

/-- The value of a finite number as a multiple of `2 ^ (-149)`. -/
def signedUnits (x : Single) : Int :=
  if x.isNegative then -(x.units : Int) else x.units

/-! ### Orders -/

/-- A whole number that orders the patterns that are numbers as their values are ordered. -/
def position (x : Single) : Int :=
  if x.isNegative then -(x.magnitude : Int) else x.magnitude

/-- **The numeric order**: false as soon as one side is no number. -/
def lt (x y : Single) : Bool :=
  !x.isNaN && !y.isNaN && x.position < y.position

/-- A whole number that orders all patterns: the negative ones come first, from the largest
magnitude to the smallest, and the negative zero comes just before the positive one. -/
def rank (x : Single) : Int :=
  if x.isNegative then -(x.magnitude : Int) - 1 else x.magnitude

/-- **The total order** of all patterns. -/
def compareRank (x y : Single) : Ordering :=
  compare x.rank y.rank

/-- The larger of two numbers; a pattern that is no number gives way to the other side. -/
def max (x y : Single) : Single :=
  if x.isNaN then y
  else if y.isNaN then x
  else if x.lt y then y
  else x

end Single

end LiveSearch
