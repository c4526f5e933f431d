import Retrace.Text.Unprintable

/-!
# Quoted strings in messages

A message that names a string puts it between double quotes, so that its ends can
be seen, and writes what could be misread as an escape.

## Main definitions

* `quotedChar` — one character as it stands between quotes.
* `quoted` — a string between quotes.

Quotes and backslashes are escaped, four control characters have a letter of
their own, and any other character without a glyph is written by its code point.
-/

namespace Retrace.Text

/-- A code point as an escape, in hexadecimal without leading zeros. -/
def codePointEscape (c : Char) : String :=
  "\\u\x7b" ++ String.ofList (Nat.toDigits 16 c.toNat) ++ "\x7d"

/-- **One character as it stands between quotes.** -/
def quotedChar (c : Char) : String :=
  if c = '\x00' then "\\0"
  else if c = '\t' then "\\t"
  else if c = '\r' then "\\r"
  else if c = '\n' then "\\n"
  else if c = '"' then "\\\""
  else if c = '\\' then "\\\\"
  else if isUnprintable c then codePointEscape c
  else c.toString

/-- **A string between quotes.** -/
def quoted (s : String) : String :=
  "\"" ++ String.join (s.toList.map quotedChar) ++ "\""

end Retrace.Text
