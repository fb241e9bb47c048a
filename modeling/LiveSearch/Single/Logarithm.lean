import LiveSearch.Single.Rounding

/-!
# The natural logarithm

The rarity of a word enters its score through a logarithm. It is computed in **fixed point** with
128 binary places and rounded once: a positive number is `2 ^ e * m` with `m` between one and two,
and `ln m = 2 * artanh ((m - 1) / (m + 1))`, whose argument is below one third, so that forty-eight
terms of the power series leave an error far below the last place of a score.

* `Single.ln` – the logarithm of a positive finite number.
-/

namespace LiveSearch.Single

/-- The number of fixed-point steps that make one. -/
def fixedOne : Nat :=
  Nat.pow 2 128

/-- The terms of the series of the inverse hyperbolic tangent from the `k`-th on, `power` being the
odd power of the argument that the `k`-th term divides. -/
def artanhFrom (square : Nat) : Nat → Nat → Nat → Nat
  | 0, _, _ => 0
  | fuel + 1, k, power =>
    power / (2 * k + 1) + artanhFrom square fuel (k + 1) (power * square / fixedOne)

/-- The inverse hyperbolic tangent of `num / den`, which is at most one third, in fixed point. -/
def artanh (num den : Nat) : Nat :=
  let z := num * fixedOne / den
  artanhFrom (z * z / fixedOne) 48 0 z

/-- The natural logarithm of two in fixed point. -/
def lnTwo : Nat :=
  2 * artanh 1 3

/-- The natural logarithm of a positive finite number in fixed point. -/
def lnFixed (x : Single) : Int :=
  let lead := x.units.log2
  let power := Nat.pow 2 lead
  ((lead : Int) - 149) * lnTwo + 2 * artanh (x.units - power) (x.units + power)

/-- The natural logarithm of a positive finite number. -/
def ln (x : Single) : Single :=
  ofQuotient (x.lnFixed < 0) (x.lnFixed.natAbs * unitsPerOne) fixedOne

end LiveSearch.Single
