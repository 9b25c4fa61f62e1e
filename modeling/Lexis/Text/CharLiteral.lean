import Lexis.Unicode.GraphemeExtend
import Lexis.Unicode.Printable

/-!
A character written as a quoted literal for a reader: between single quotes, with the
backslash escapes `\0 \t \r \n \\ \'`, and with `\u{…}` (lowercase hexadecimal, no leading
zeros) for a character that extends the grapheme before it or that is not printable. Every
other character, the double quote among them, stands as itself.
-/

namespace Lexis.Text

/-- The lowercase hexadecimal digits of a number, without leading zeros. -/
def hexDigits (n : Nat) : List Char := Nat.toDigits 16 n

/-- A character written as a `\u{…}` escape of its code point. -/
def unicodeEscape (c : Char) : List Char :=
  '\\' :: 'u' :: '\x7b' :: hexDigits c.toNat ++ ['\x7d']

/-- How a character is written inside single quotes. -/
def escapeInQuotes (c : Char) : List Char :=
  if c = '\x00' then ['\\', '0']
  else if c = '\t' then ['\\', 't']
  else if c = '\r' then ['\\', 'r']
  else if c = '\n' then ['\\', 'n']
  else if c = '\\' then ['\\', '\\']
  else if c = '\'' then ['\\', '\'']
  else if Unicode.isGraphemeExtend c || !Unicode.isPrintable c then unicodeEscape c
  else [c]

def charLiteral (c : Char) : String := String.ofList ('\'' :: escapeInQuotes c ++ ['\''])

end Lexis.Text
