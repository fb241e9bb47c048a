/-!
# The length of a text in bytes

Several limits are set in the bytes that a text takes in UTF-8, and not in its characters.

* `byteLength` – the number of bytes of a list of characters.
-/

namespace LiveSearch.Text

/-- The number of bytes that characters take. -/
def byteLength : List Char → Nat
  | [] => 0
  | c :: cs => c.utf8Size + byteLength cs

end LiveSearch.Text
