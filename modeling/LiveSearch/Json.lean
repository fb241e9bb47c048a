import LiveSearch.Text.Decimal
import LiveSearch.Text.Hex

/-!
# JSON values and their text

Items, events and conditions are exchanged and stored as JSON. A **value** keeps what decoding
depends on: the order and the repetitions of the members of an object, and whether a number is
written as a plain natural number.

* `Json.compact` – the text without blanks.
* `Json.pretty` – the text with one member or element on a line, indented by two blanks a level.

A text may contain escapes that spell one half of a surrogate pair. Such a text is well formed as
JSON but stands for no sequence of characters, so texts are options, and `none` is a text that can
only be skipped.
-/

namespace LiveSearch

open Text

/-- A **JSON value**. -/
inductive Json where
  /-- The null. -/
  | null
  /-- A truth value. -/
  | bool (b : Bool)
  /-- A number written as a natural number. -/
  | natural (n : Nat)
  /-- Any other number, by its text. -/
  | number (lexeme : String)
  /-- A text, or `none` if its escapes stand for no characters. -/
  | text (s : Option String)
  /-- A list of values. -/
  | array (elements : List Json)
  /-- A list of members, repetitions included. -/
  | object (members : List (Option String × Json))
deriving Inhabited

namespace Json

/-- A text. -/
def ofString (s : String) : Json :=
  text (some s)

/-- An object with readable keys. -/
def record (members : List (String × Json)) : Json :=
  object (members.map fun (key, value) => (some key, value))

/-! ### Writing -/

/-- A character between the quotation marks of a text: controls, the quotation mark and the
backslash are escaped, all else stands for itself. -/
def escapedChar (c : Char) : List Char :=
  if c = '"' then ['\\', '"']
  else if c = '\\' then ['\\', '\\']
  else if c = '\x08' then ['\\', 'b']
  else if c = '\x0c' then ['\\', 'f']
  else if c = '\n' then ['\\', 'n']
  else if c = '\r' then ['\\', 'r']
  else if c = '\t' then ['\\', 't']
  else if c.toNat < 0x20 then ['\\', 'u'] ++ Hex.fixed 4 c.toNat
  else [c]

/-- The written form of a text; half a surrogate pair is written by its escape. -/
def textForm : Option String → List Char
  | some s => '"' :: s.toList.flatMap escapedChar ++ ['"']
  | none => ['"', '\\', 'u', 'd', '8', '0', '0', '"']

/-- The written form of a truth value. -/
def boolForm (b : Bool) : List Char :=
  if b then ['t', 'r', 'u', 'e'] else ['f', 'a', 'l', 's', 'e']

mutual

/-- The text of a value without blanks. -/
def compact : Json → List Char
  | .null => ['n', 'u', 'l', 'l']
  | .bool b => boolForm b
  | .natural n => Decimal.digits n
  | .number lexeme => lexeme.toList
  | .text s => textForm s
  | .array [] => ['[', ']']
  | .array (x :: xs) => '[' :: compact x ++ compactElements xs
  | .object [] => ['\x7b', '\x7d']
  | .object ((key, x) :: ms) =>
    '\x7b' :: textForm key ++ ':' :: compact x ++ compactMembers ms

/-- The text of the further elements of an array, with the bracket that closes it. -/
def compactElements : List Json → List Char
  | [] => [']']
  | x :: xs => ',' :: compact x ++ compactElements xs

/-- The text of the further members of an object, with the brace that closes it. -/
def compactMembers : List (Option String × Json) → List Char
  | [] => ['\x7d']
  | (key, x) :: ms => ',' :: textForm key ++ ':' :: compact x ++ compactMembers ms

end

/-- A line break followed by the indentation of a level. -/
def lineBreak (level : Nat) : List Char :=
  '\n' :: List.replicate (2 * level) ' '

mutual

/-- The text of a value that stands at a level of indentation, one member on a line. -/
def prettyAt (level : Nat) : Json → List Char
  | .array (x :: xs) =>
    '[' :: lineBreak (level + 1) ++ prettyAt (level + 1) x ++ prettyElements level xs
  | .object ((key, x) :: ms) =>
    '\x7b' :: lineBreak (level + 1) ++ textForm key ++ [':', ' '] ++ prettyAt (level + 1) x ++
      prettyMembers level ms
  | other => compact other

/-- The lines of the further elements of an array at a level. -/
def prettyElements (level : Nat) : List Json → List Char
  | [] => lineBreak level ++ [']']
  | x :: xs => ',' :: lineBreak (level + 1) ++ prettyAt (level + 1) x ++ prettyElements level xs

/-- The lines of the further members of an object at a level. -/
def prettyMembers (level : Nat) : List (Option String × Json) → List Char
  | [] => lineBreak level ++ ['\x7d']
  | (key, x) :: ms =>
    ',' :: lineBreak (level + 1) ++ textForm key ++ [':', ' '] ++ prettyAt (level + 1) x ++
      prettyMembers level ms

end

/-- The text of a value with one member on a line. -/
def pretty (value : Json) : List Char :=
  prettyAt 0 value

end Json

end LiveSearch
