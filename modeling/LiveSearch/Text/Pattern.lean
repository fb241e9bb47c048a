/-!
# Patterns

A **pattern** is a text that describes other texts. Most characters stand for themselves, a full stop
stands for any character but a line feed, and a star lets the character before it occur any number of
times. A character that has a meaning of its own stands for itself if a backslash is written before
it. Of the usual notation this is the part that describes how a text begins or ends: groups,
alternatives and sets of characters are refused.

* `Pattern.escape` – a text with a backslash before each character that may have a meaning.
* `Pattern.parse?` – the reading of a pattern: first its signs, then its pieces.
* `Pattern.describes` – **does a pattern describe the whole of a text?**
-/

namespace LiveSearch.Text

/-- What a pattern asks of one character. -/
inductive CharClass where
  /-- The character is this one. -/
  | exactly (c : Char)
  /-- The character is no line feed. -/
  | onLine
deriving DecidableEq, Inhabited

/-- Is the character one of the class? -/
def CharClass.holds : CharClass → Char → Bool
  | .exactly c, d => c = d
  | .onLine, d => d ≠ '\n'

/-- A sign of a written pattern. -/
inductive Sign where
  /-- One character. -/
  | character (k : CharClass)
  /-- What stands before it may occur any number of times. -/
  | star
deriving DecidableEq, Inhabited

/-- A piece of a pattern. -/
inductive Piece where
  /-- One character of a class. -/
  | one (k : CharClass)
  /-- Any number of characters of a class. -/
  | many (k : CharClass)
deriving DecidableEq, Inhabited

/-- A **pattern**: its pieces describe the parts of a text, one after the other. -/
abbrev Pattern := List Piece

namespace Pattern

/-! ### Writing and reading -/

/-- Has the character a meaning wherever it stands bare in a pattern? -/
def isOperator (c : Char) : Bool :=
  c ∈ ['\\', '.', '*', '+', '?', '(', ')', '|', '[', '\x7b', '^', '$']

/-- May the character have a meaning in a pattern? These are the characters before which a backslash
may be written; some of them have a meaning only in a part of the notation that is not read here. -/
def isSpecial (c : Char) : Bool :=
  isOperator c || c ∈ [']', '\x7d', '#', '&', '-', '~']

/-- The pattern of a text itself. -/
def escape (text : List Char) : List Char :=
  text.flatMap fun c => if isSpecial c then ['\\', c] else [c]

/-- The sign of a bare character. -/
def bareSign? (c : Char) : Option Sign :=
  if c = '.' then some (.character .onLine)
  else if c = '*' then some .star
  else if isOperator c then none
  else some (.character (.exactly c))

/-- The signs of a written pattern. -/
def signs? : List Char → Option (List Sign)
  | [] => some []
  | c :: rest =>
    if c = '\\' then
      match rest with
      | [] => none
      | d :: rest =>
        if isSpecial d then (signs? rest).map (.character (.exactly d) :: ·) else none
    else (bareSign? c).bind fun sign => (signs? rest).map (sign :: ·)

/-- The pieces that signs spell. A star needs a character before it. -/
def pieces? : List Sign → Option Pattern
  | [] => some []
  | .star :: _ => none
  | .character k :: .star :: rest => (pieces? rest).map (.many k :: ·)
  | .character k :: rest => (pieces? rest).map (.one k :: ·)

/-- **Reads a pattern.** -/
def parse? (cs : List Char) : Option Pattern :=
  (signs? cs).bind pieces?

/-! ### Matching -/

/-- Do some characters of a class come first, and then a text that passes a test? -/
def startsMany (k : CharClass) (test : List Char → Bool) : List Char → Bool
  | [] => test []
  | c :: rest => test (c :: rest) || (k.holds c && startsMany k test rest)

/-- **Does the pattern describe the whole of a text?** -/
def describes : Pattern → List Char → Bool
  | [], cs => cs.isEmpty
  | .one _ :: _, [] => false
  | .one k :: pattern, c :: rest => k.holds c && describes pattern rest
  | .many k :: pattern, cs => startsMany k (describes pattern) cs

end Pattern

end LiveSearch.Text
