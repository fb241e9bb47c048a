import LiveSearch.Text.Alphanumeric
import LiveSearch.Text.ByteLength
import LiveSearch.Text.Lowercase
import LiveSearch.Text.Stem

/-!
# The words of a text

* `runs` – the maximal runs of letters and numbers.
* `words` – **the words** by which a text is indexed and searched: the runs of fewer than forty
  bytes, in lower case, each cut down to its stem.
* `distinctWords` – the same without repetitions and in order, so that it depends on the set of
  words only.
-/

namespace LiveSearch.Text

/-- A word, or any other unit that is indexed as a whole. -/
abbrev Token := List Char

/-- The runs of a text that follows the unfinished run `current`, given backwards. -/
def runsFrom (current : List Char) : List Char → List (List Char)
  | [] => if current.isEmpty then [] else [current.reverse]
  | c :: rest =>
    if isAlphanumeric c then runsFrom (c :: current) rest
    else if current.isEmpty then runsFrom [] rest
    else current.reverse :: runsFrom [] rest

/-- The maximal runs of letters and numbers of a text. -/
def runs (cs : List Char) : List (List Char) :=
  runsFrom [] cs

/-- The number of bytes from which on a run is too long to be a word. -/
def wordLimit : Nat := 40

/-- The words of a text, in order, with repetitions. -/
def words (s : String) : List Token :=
  ((runs s.toList).filter (byteLength · < wordLimit)).map fun run => Stem.ofWord (lowerEach run)

/-- May the first token stand before the second in the order of code points? -/
def tokenLe : Token → Token → Bool
  | [], _ => true
  | _ :: _, [] => false
  | a :: as, b :: bs => a.toNat < b.toNat || (a.toNat = b.toNat && tokenLe as bs)

/-- The words of a text, each once, in order. -/
def distinctWords (s : String) : List Token :=
  ((words s).eraseDups).mergeSort tokenLe

end LiveSearch.Text
