/-!
# White space at the ends of a text

* `isBlank` – the property `White_Space`: the blanks of ASCII with the vertical tab and the form
  feed, the next-line control, and the spaces and separators of the other scripts. The zero-width
  space and the byte-order mark are no blanks.
* `trim` – a text without the blanks at its two ends.
-/

namespace LiveSearch.Text

/-- Is the character white space? -/
def isBlank (c : Char) : Bool :=
  let n := c.toNat
  (9 ≤ n && n ≤ 13) || n = 0x20 || n = 0x85 || n = 0xa0 || n = 0x1680 ||
    (0x2000 ≤ n && n ≤ 0x200a) || n = 0x2028 || n = 0x2029 || n = 0x202f || n = 0x205f || n = 0x3000

/-- The text without the blanks that it begins with. -/
def trimStart (cs : List Char) : List Char :=
  cs.dropWhile isBlank

/-- The text without the blanks that it ends with. -/
def trimEnd (cs : List Char) : List Char :=
  (cs.reverse.dropWhile isBlank).reverse

/-- The characters of a text without the blanks at its two ends. -/
def trimChars (cs : List Char) : List Char :=
  trimEnd (trimStart cs)

/-- A text without the blanks at its two ends. -/
def trim (s : String) : String :=
  String.ofList (trimChars s.toList)

/-- Is there nothing but white space in the text? -/
def isBlankText (s : String) : Bool :=
  s.toList.all isBlank

end LiveSearch.Text
