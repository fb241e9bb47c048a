/-!
# Hexadecimal numerals

* `Hex.fixed` – the lowest `count` digits of a number, zeros included, in lower case.
* `Hex.shortest` – the digits of a number without leading zeros.
* `Hex.parse?` – the number that a non-empty run of hexadecimal digits of either case denotes.
-/

namespace LiveSearch.Text.Hex

/-- The character of a digit below sixteen. -/
def digit (d : Nat) : Char :=
  if d < 10 then Char.ofNat (48 + d) else Char.ofNat (87 + d)

/-- The value of a hexadecimal digit of either case. -/
def digitValue? (c : Char) : Option Nat :=
  if '0' ≤ c ∧ c ≤ '9' then some (c.toNat - 48)
  else if 'a' ≤ c ∧ c ≤ 'f' then some (c.toNat - 87)
  else if 'A' ≤ c ∧ c ≤ 'F' then some (c.toNat - 55)
  else none

/-- The lowest `count` hexadecimal digits of a number. -/
def fixed : Nat → Nat → List Char
  | 0, _ => []
  | count + 1, n => fixed count (n / 16) ++ [digit (n % 16)]

/-- The hexadecimal numeral of a number without leading zeros. -/
def shortest (n : Nat) : List Char :=
  if n < 16 then [digit n] else shortest (n / 16) ++ [digit (n % 16)]
termination_by n
decreasing_by omega

/-- Adds the digits of a text to the number read so far. -/
def parseFrom? (n : Nat) : List Char → Option Nat
  | [] => some n
  | c :: rest => (digitValue? c).bind fun d => parseFrom? (16 * n + d) rest

/-- The number that a non-empty run of hexadecimal digits denotes. -/
def parse? (cs : List Char) : Option Nat :=
  if cs.isEmpty then none else parseFrom? 0 cs

end LiveSearch.Text.Hex
