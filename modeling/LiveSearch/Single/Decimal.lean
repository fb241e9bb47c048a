import LiveSearch.Single.Rounding
import LiveSearch.Text.Decimal

/-!
# Scores in decimal

A score is printed in two ways.

* `Single.fixed` – with **three places**, rounded from the exact value, a tie going to the even
  digit.
* `Single.shortest` – with the **fewest digits that read back**: of all decimals that round to the
  number those with the fewest digits, and of these the nearest.

The shortest form is found on decimal grids. A grid of `count` digits has a point in the interval of
the reals that round to the number only if one of the two grid points around the number lies in it,
so two candidates for each count decide. All comparisons are of natural numbers: values are taken in
quarters of the smallest positive number, which makes the ends of the interval whole.
-/

namespace LiveSearch.Single

open Text

/-! ### Three places -/

/-- The text of a finite number with three decimal places. -/
def fixedFinite (x : Single) : List Char :=
  let thousandths := roundQuotient (x.units * 1000) unitsPerOne
  (if x.isNegative then ['-'] else []) ++ Decimal.digits (thousandths / 1000) ++
    '.' :: Decimal.padded 3 (thousandths % 1000)

/-- The text of a number with three decimal places. -/
def fixed (x : Single) : String :=
  if x.isNaN then "NaN"
  else if x.isInfinite then if x.isNegative then "-inf" else "inf"
  else String.ofList x.fixedFinite

/-! ### The fewest digits -/

/-- The **interval of rounding** of a positive finite number: the reals between `low` and `high`
round to it, and so do the two ends if `closed`. All three numbers are in quarters of a unit. -/
structure Interval where
  /-- The lower end. -/
  low : Nat
  /-- The number itself. -/
  middle : Nat
  /-- The upper end. -/
  high : Nat
  /-- Do the ends belong to the interval? -/
  closed : Bool

/-- The interval of rounding of the absolute value of a finite number. -/
def interval (x : Single) : Interval :=
  let exponent := x.magnitude / exponentPlace
  let gap := Nat.pow 2 (exponent - 1)
  let gapBelow := if x.magnitude % exponentPlace = 0 ∧ 1 < exponent then gap else 2 * gap
  { low := 4 * x.units - gapBelow
    middle := 4 * x.units
    high := 4 * x.units + 2 * gap
    closed := x.magnitude % 2 = 0 }

/-- A positive decimal `coefficient * 10 ^ exponent`. -/
structure Scientific where
  /-- The digits, as a number. -/
  coefficient : Nat
  /-- The power of ten that they are multiplied by. -/
  exponent : Int

/-- The number of quarter units that make one. -/
def quartersPerOne : Nat :=
  4 * unitsPerOne

/-- Does the grid point `coefficient`, in steps of `step` on a scale enlarged by `factor`, lie in
the interval? -/
def Interval.holds (i : Interval) (factor step coefficient : Nat) : Bool :=
  let point := coefficient * step
  if i.closed then i.low * factor ≤ point && point ≤ i.high * factor
  else i.low * factor < point && point < i.high * factor

/-- The point nearest to the number on the grid of multiples of `10 ^ exponent`, if it rounds to the
number. Of two points equally near the even one is taken. -/
def Interval.onGrid (i : Interval) (exponent : Int) : Option Scientific :=
  let factor := Nat.pow 10 (-exponent).toNat
  let step := quartersPerOne * Nat.pow 10 exponent.toNat
  let below := i.middle * factor / step
  let nearest := roundQuotient (i.middle * factor) step
  let other := if nearest = below then below + 1 else below
  if i.holds factor step nearest then some ⟨nearest, exponent⟩
  else if i.holds factor step other then some ⟨other, exponent⟩
  else none

/-- The least whole number `k` with the number below `10 ^ k`. -/
def Interval.decimalPlace (i : Interval) : Int :=
  let scaled := i.middle * Nat.pow 10 45
  let place := (List.range 90).find? fun k => scaled < quartersPerOne * Nat.pow 10 k
  (place.getD 0 : Int) - 45

/-- The decimal with the fewest digits in the interval. Nine digits always suffice. -/
def Interval.shortest (i : Interval) : Scientific :=
  let place := i.decimalPlace
  let found := (List.range 9).findSome? fun (count : Nat) => i.onGrid (place - (count + 1))
  found.getD ⟨0, 0⟩

/-- The same decimal with a coefficient that does not end in zero. -/
def Scientific.withoutZeros (fuel : Nat) (d : Scientific) : Scientific :=
  match fuel with
  | 0 => d
  | fuel + 1 =>
    if d.coefficient % 10 = 0 then withoutZeros fuel ⟨d.coefficient / 10, d.exponent + 1⟩ else d

/-- The exponent in scientific notation: a sign and at least two digits. -/
def exponentText (e : Int) : List Char :=
  'e' :: (if e < 0 then '-' else '+') :: Decimal.padded 2 e.natAbs

/-- The text of a decimal: **positional** while its first digit stands at most six places behind
the point or twelve before the unit, and scientific beyond that. There is always a digit on either
side of a positional point. -/
def Scientific.text (d : Scientific) : List Char :=
  let digits := Decimal.digits d.coefficient
  let first := d.exponent + (digits.length - 1 : Nat)
  if -6 ≤ first ∧ first ≤ 12 then
    if 0 ≤ d.exponent then digits ++ List.replicate d.exponent.toNat '0' ++ ['.', '0']
    else if 0 ≤ first then
      digits.take (first.toNat + 1) ++ '.' :: digits.drop (first.toNat + 1)
    else ['0', '.'] ++ List.replicate (-first - 1).toNat '0' ++ digits
  else
    digits.take 1 ++ (if digits.length = 1 then [] else '.' :: digits.drop 1) ++ exponentText first

/-- The text of a finite number with the fewest digits that read back. -/
def shortestFinite (x : Single) : List Char :=
  (if x.isNegative then ['-'] else []) ++
    if x.magnitude = 0 then ['0', '.', '0']
    else (x.interval.shortest.withoutZeros 50).text

/-- The text of a number with the fewest digits that read back, if it is finite. -/
def shortest? (x : Single) : Option String :=
  if x.isFinite then some (String.ofList x.shortestFinite) else none

end LiveSearch.Single
