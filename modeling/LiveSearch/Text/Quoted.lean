import LiveSearch.Text.Hex
import LiveSearch.Text.Printable

/-!
# Texts in quotation marks

Error messages show a text between double quotation marks, so that its ends can be seen. Inside,
the quotation mark and the backslash are preceded by a backslash, the tab, the line feed, the
carriage return and the null character have letters of their own, and every other character
without a printed form is spelled as `\\u` with its code point in braces. The apostrophe stands for
itself.

* `quoted` – the text between its quotation marks.
-/

namespace LiveSearch.Text

/-- A character as it stands in a quoted text. -/
def quotedChar (c : Char) : List Char :=
  if c = '\x00' then ['\\', '0']
  else if c = '\t' then ['\\', 't']
  else if c = '\r' then ['\\', 'r']
  else if c = '\n' then ['\\', 'n']
  else if c = '\\' || c = '"' then ['\\', c]
  else if isPrintable c then [c]
  else ['\\', 'u', '\x7b'] ++ Hex.shortest c.toNat ++ ['\x7d']

/-- A text between quotation marks, with its invisible characters spelled out. -/
def quoted (s : String) : String :=
  String.ofList (['"'] ++ s.toList.flatMap quotedChar ++ ['"'])

end LiveSearch.Text
