import LiveSearch.Single

/-!
# Correct rounding

Every operation on scores is exact arithmetic followed by one **rounding to the nearest** number,
a tie going to the neighbour with an even last bit. The exact result is handed over as a quotient
of natural numbers, in multiples of the smallest positive number, so rounding is one integer
division.

* `roundQuotient` – the nearest integer to a quotient, ties to even.
* `Single.ofQuotient` – the number nearest to a quotient.
* `Single.add`, `Single.mul`, `Single.div` – the three operations that scoring uses.

Below `2 ^ 24` units the patterns count the units one by one. Above, the numbers between two powers
of two lie `2 ^ shift` units apart, and since a carry of the rounded fraction into the exponent is
the next pattern, the magnitude of the result is simply `shift * 2 ^ 23` more than the fraction.
-/

namespace LiveSearch

/-- The integer nearest to `num / den`, and the even one of two that are equally near. -/
def roundQuotient (num den : Nat) : Nat :=
  let quotient := num / den
  let twice := 2 * (num % den)
  if twice < den then quotient
  else if den < twice then quotient + 1
  else if quotient % 2 = 0 then quotient
  else quotient + 1

namespace Single

/-- The number of places by which a magnitude of `units` units has to be shifted to leave
twenty-four binary digits. -/
def shiftOf (units : Nat) : Nat :=
  units.log2 - 23

/-- The magnitude nearest to `num / den` units, at most that of the infinities. -/
def roundUnits (num den : Nat) : Nat :=
  let shift := shiftOf (num / den)
  min infinityMagnitude (shift * exponentPlace + roundQuotient num (den * Nat.pow 2 shift))

/-- The number nearest to `num / den` units of a sign. -/
def ofQuotient (negative : Bool) (num den : Nat) : Single :=
  ofMagnitude negative (roundUnits num den)

/-- The number of units that make one. -/
def unitsPerOne : Nat :=
  Nat.pow 2 149

/-- The number nearest to a natural number. -/
def ofNat (n : Nat) : Single :=
  ofQuotient false (n * unitsPerOne) 1

/-- The number nearest to a positive fraction. -/
def ofRatio (num den : Nat) : Single :=
  ofQuotient false (num * unitsPerOne) den

/-- The number with the opposite sign. -/
def negate (x : Single) : Single :=
  ofMagnitude (!x.isNegative) x.magnitude

/-- The product. -/
def mul (x y : Single) : Single :=
  let negative := x.isNegative != y.isNegative
  if x.isNaN || y.isNaN then nan
  else if x.isInfinite || y.isInfinite then
    if x.magnitude = 0 || y.magnitude = 0 then nan else infinity negative
  else ofQuotient negative (x.units * y.units) unitsPerOne

/-- The quotient. -/
def div (x y : Single) : Single :=
  let negative := x.isNegative != y.isNegative
  if x.isNaN || y.isNaN then nan
  else if x.isInfinite then if y.isInfinite then nan else infinity negative
  else if y.isInfinite then ofMagnitude negative 0
  else if y.magnitude = 0 then if x.magnitude = 0 then nan else infinity negative
  else ofQuotient negative (x.units * unitsPerOne) y.units

/-- The sum. The sum of opposite numbers is the positive zero. -/
def add (x y : Single) : Single :=
  if x.isNaN || y.isNaN then nan
  else if x.isInfinite then
    if y.isInfinite && x.isNegative != y.isNegative then nan else x
  else if y.isInfinite then y
  else
    let sum := x.signedUnits + y.signedUnits
    if sum = 0 then ofMagnitude (x.isNegative && y.isNegative) 0
    else ofQuotient (sum < 0) sum.natAbs 1

end Single

end LiveSearch
