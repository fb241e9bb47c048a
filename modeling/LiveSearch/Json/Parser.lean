import LiveSearch.Json

/-!
# Reading JSON

The reader takes the characters from the front and returns the value with the characters that
follow it. It accepts exactly the grammar of JSON: four kinds of blank between tokens, no comments,
no trailing comma, no leading zero, escapes only as the grammar lists them, no raw control character
in a text.

* `Json.parse?` – the value of a whole text.

Values nest, so the reader counts down a fuel that the length of the text covers.
-/

namespace LiveSearch.Json

open Text

/-! ### Tokens -/

/-- Is the character a blank between two tokens? -/
def isSpace (c : Char) : Bool :=
  c = ' ' || c = '\n' || c = '\t' || c = '\r'

/-- The characters from the next token on. -/
def skipSpace (cs : List Char) : List Char :=
  cs.dropWhile isSpace

/-- The code unit that four hexadecimal digits denote. -/
def hexUnit? (a b c d : Char) : Option Nat :=
  Hex.parse? [a, b, c, d]

/-- The character that a backslash and a letter stand for. -/
def simpleEscape? (c : Char) : Option Char :=
  if c = '"' || c = '\\' || c = '/' then some c
  else if c = 'b' then some '\x08'
  else if c = 'f' then some '\x0c'
  else if c = 'n' then some '\n'
  else if c = 'r' then some '\r'
  else if c = 't' then some '\t'
  else none

/-- The code points and escaped code units of a text up to its closing quotation mark, with the
characters behind it. -/
def textUnits : List Char → Option (List Nat × List Char)
  | '"' :: rest => some ([], rest)
  | '\\' :: 'u' :: a :: b :: c :: d :: rest =>
    (hexUnit? a b c d).bind fun unit =>
      (textUnits rest).map fun (units, rest) => (unit :: units, rest)
  | '\\' :: e :: rest =>
    (simpleEscape? e).bind fun c =>
      (textUnits rest).map fun (units, rest) => (c.toNat :: units, rest)
  | c :: rest =>
    if c.toNat < 0x20 || c = '\\' then none
    else (textUnits rest).map fun (units, rest) => (c.toNat :: units, rest)
  | [] => none

/-- Is the unit the first half of a surrogate pair? -/
def isHighHalf (unit : Nat) : Bool :=
  0xd800 ≤ unit && unit < 0xdc00

/-- Is the unit the second half of a surrogate pair? -/
def isLowHalf (unit : Nat) : Bool :=
  0xdc00 ≤ unit && unit < 0xe000

/-- The characters that code points and code units stand for; the two halves of a surrogate pair
make one character, and a half that stands alone makes none. -/
def joinUnits : List Nat → Option (List Char)
  | [] => some []
  | high :: low :: rest =>
    if isHighHalf high then
      if isLowHalf low then
        (joinUnits rest).map
          (Char.ofNat (0x10000 + (high - 0xd800) * 0x400 + (low - 0xdc00)) :: ·)
      else none
    else if isLowHalf high then none
    else (joinUnits (low :: rest)).map (Char.ofNat high :: ·)
  | [unit] => if isHighHalf unit || isLowHalf unit then none else some [Char.ofNat unit]

/-- A text behind its opening quotation mark, with the characters that follow it. -/
def textToken (cs : List Char) : Option (Option String × List Char) :=
  (textUnits cs).map fun (units, rest) => ((joinUnits units).map String.ofList, rest)

/-- Can the character occur in a number? -/
def isNumberChar (c : Char) : Bool :=
  c.isDigit || c = '-' || c = '+' || c = '.' || c = 'e' || c = 'E'

/-- Are the characters a natural number without a leading zero? -/
def isNatural (cs : List Char) : Bool :=
  match cs with
  | [] => false
  | ['0'] => true
  | c :: rest => c ≠ '0' && (c :: rest).all Char.isDigit

/-- Are the characters an exponent, or nothing? -/
def isExponentPart : List Char → Bool
  | [] => true
  | e :: rest =>
    (e = 'e' || e = 'E') &&
      match rest with
      | sign :: digits =>
        if sign = '+' || sign = '-' then !digits.isEmpty && digits.all Char.isDigit
        else (sign :: digits).all Char.isDigit
      | [] => false

/-- Are the characters what may follow the integer part of a number? -/
def isFractionPart : List Char → Bool
  | '.' :: rest =>
    !(rest.takeWhile Char.isDigit).isEmpty && isExponentPart (rest.dropWhile Char.isDigit)
  | rest => isExponentPart rest

/-- Are the characters a number? -/
def isNumber (cs : List Char) : Bool :=
  let unsigned := if cs.head? = some '-' then cs.drop 1 else cs
  isNatural (unsigned.takeWhile Char.isDigit) && isFractionPart (unsigned.dropWhile Char.isDigit)

/-- The number at the front, with the characters that follow it. -/
def numberToken (cs : List Char) : Option (Json × List Char) :=
  let lexeme := cs.takeWhile isNumberChar
  let rest := cs.dropWhile isNumberChar
  if isNatural lexeme then some (.natural (Decimal.value lexeme), rest)
  else if isNumber lexeme then some (.number (String.ofList lexeme), rest)
  else none

/-! ### Values -/

mutual

/-- The value at the front, with the characters that follow it. -/
def readValue : Nat → List Char → Option (Json × List Char)
  | 0, _ => none
  | fuel + 1, cs =>
    match skipSpace cs with
    | 'n' :: 'u' :: 'l' :: 'l' :: rest => some (.null, rest)
    | 't' :: 'r' :: 'u' :: 'e' :: rest => some (.bool true, rest)
    | 'f' :: 'a' :: 'l' :: 's' :: 'e' :: rest => some (.bool false, rest)
    | '"' :: rest => (textToken rest).map fun (s, rest) => (.text s, rest)
    | '[' :: rest =>
      match skipSpace rest with
      | ']' :: rest => some (.array [], rest)
      | rest =>
        (readValue fuel rest).bind fun (x, rest) =>
          (readElements fuel rest).map fun (xs, rest) => (.array (x :: xs), rest)
    | '\x7b' :: rest =>
      match skipSpace rest with
      | '\x7d' :: rest => some (.object [], rest)
      | rest =>
        (readMember fuel rest).bind fun (m, rest) =>
          (readMembers fuel rest).map fun (ms, rest) => (.object (m :: ms), rest)
    | rest => numberToken rest

/-- The further elements of an array and the bracket that closes it. -/
def readElements : Nat → List Char → Option (List Json × List Char)
  | 0, _ => none
  | fuel + 1, cs =>
    match skipSpace cs with
    | ']' :: rest => some ([], rest)
    | ',' :: rest =>
      (readValue fuel rest).bind fun (x, rest) =>
        (readElements fuel rest).map fun (xs, rest) => (x :: xs, rest)
    | _ => none

/-- A member of an object: its key, a colon and its value. -/
def readMember : Nat → List Char → Option ((Option String × Json) × List Char)
  | 0, _ => none
  | fuel + 1, cs =>
    match skipSpace cs with
    | '"' :: rest =>
      (textToken rest).bind fun (key, rest) =>
        match skipSpace rest with
        | ':' :: rest => (readValue fuel rest).map fun (x, rest) => ((key, x), rest)
        | _ => none
    | _ => none

/-- The further members of an object and the brace that closes it. -/
def readMembers : Nat → List Char → Option (List (Option String × Json) × List Char)
  | 0, _ => none
  | fuel + 1, cs =>
    match skipSpace cs with
    | '\x7d' :: rest => some ([], rest)
    | ',' :: rest =>
      (readMember fuel rest).bind fun (m, rest) =>
        (readMembers fuel rest).map fun (ms, rest) => (m :: ms, rest)
    | _ => none

end

/-- The value that a whole text stands for. -/
def parse? (cs : List Char) : Option Json :=
  (readValue (2 * cs.length + 2) cs).bind fun (value, rest) =>
    if (skipSpace rest).isEmpty then some value else none

/-- The value that a whole text stands for. -/
def ofText? (s : String) : Option Json :=
  parse? s.toList

end LiveSearch.Json
