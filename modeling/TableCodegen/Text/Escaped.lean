import TableCodegen.Text
import TableCodegen.Text.Printable

/-!
# Escaped text in messages

A text inside a message stands between double quotes, a single character between single quotes.

| character | written |
| --- | --- |
| NUL, tab, line feed, carriage return | `\0` `\t` `\n` `\r` |
| backslash | `\\` |
| the surrounding quote | behind a backslash |
| any other that is not printable | `\u{…}`, its code point in hexadecimal, small letters |
| all else | itself |

So a message holds no line feed, whatever text it quotes.
-/

namespace TableCodegen
namespace Text

/-- The escaped form of a character inside the given quotes. -/
def escapeChar (quote c : Char) : Text :=
  if c = '\x00' then ['\\', '0']
  else if c = '\t' then ['\\', 't']
  else if c = '\n' then ['\\', 'n']
  else if c = '\r' then ['\\', 'r']
  else if c = '\\' then ['\\', '\\']
  else if c = quote then ['\\', quote]
  else if isPrintable c then [c]
  else ['\\', 'u', '\x7b'] ++ Nat.toDigits 16 c.toNat ++ ['\x7d']

/-- A text as a message quotes it. -/
def escaped (t : Text) : Text := '"' :: t.flatMap (escapeChar '"') ++ ['"']

/-- A single character as a message quotes it. -/
def escapedChar (c : Char) : Text := '\x27' :: escapeChar '\x27' c ++ ['\x27']

end Text
end TableCodegen
