/-!
# Tables of characters

A class of characters is given by the list of its **ranges**, in ascending order and without
overlap; each range is the pair of its first and its last code point.

* `inTable` – membership, by one walk that stops at the first range beyond the character.
-/

namespace LiveSearch.Text

/-- Does an ascending list of ranges hold the code point? -/
def inTable : List (Nat × Nat) → Nat → Bool
  | [], _ => false
  | (first, last) :: rest, n =>
    if n < first then false else if n ≤ last then true else inTable rest n

end LiveSearch.Text
