/-!
# Decimal numerals

* `Decimal.digits` – the numeral of a natural number, without leading zeros.
* `Decimal.parse?` – the number that a non-empty run of ASCII digits denotes, leading zeros
  allowed.
* `Decimal.parseWord?` – the same for a number of at most sixty-four bits with an optional plus
  sign, the form in which counts and times are typed.
-/

namespace LiveSearch.Text.Decimal

/-- The character of a digit below ten. -/
def digit (d : Nat) : Char :=
  Char.ofNat (48 + d)

/-- The decimal numeral of a number. -/
def digits (n : Nat) : List Char :=
  if n < 10 then [digit n] else digits (n / 10) ++ [digit (n % 10)]
termination_by n
decreasing_by omega

/-- The decimal numeral of a number, as a text. -/
def render (n : Nat) : String :=
  String.ofList (digits n)

/-- The number that a run of ASCII digits denotes. -/
def value (cs : List Char) : Nat :=
  cs.foldl (fun n c => 10 * n + (c.toNat - 48)) 0

/-- The number that a non-empty run of ASCII digits denotes. -/
def parse? (cs : List Char) : Option Nat :=
  if !cs.isEmpty && cs.all Char.isDigit then some (value cs) else none

/-- A text without the one plus sign that it may begin with. -/
def withoutPlus : List Char → List Char
  | '+' :: rest => rest
  | cs => cs

/-- The number of values that sixty-four bits can have, `2 ^ 64`. -/
def wordLimit : Nat :=
  0x10000000000000000

/-- The number of at most sixty-four bits that a numeral with an optional plus sign denotes. -/
def parseWord? (cs : List Char) : Option Nat :=
  (parse? (withoutPlus cs)).filter (· < wordLimit)

/-- The numeral in a field of at least `width` characters, filled with zeros from the left. -/
def padded (width n : Nat) : List Char :=
  (digits n).leftpad width '0'

end LiveSearch.Text.Decimal
