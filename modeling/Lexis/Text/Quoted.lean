import Lexis.Text.CharLiteral

/-!
Text written as a quoted string for a reader: between double quotes, with the backslash
escapes `\0 \t \r \n \\ \"`, and with `\u{…}` for a character that extends a grapheme or that is
not printable. The single quote stands as itself.

Messages about a value quote it this way only when it holds white space, so that a reader can
see where it begins and ends.
-/

namespace Lexis.Text

/-- Whether a character is white space in the sense of Unicode's `White_Space` property. -/
def isWhiteSpace (c : Char) : Bool :=
  let n := c.toNat
  n == 0x20 || (0x09 ≤ n && n ≤ 0x0D) || n == 0x85 || n == 0xA0 || n == 0x1680 ||
    (0x2000 ≤ n && n ≤ 0x200A) || n == 0x2028 || n == 0x2029 || n == 0x202F ||
    n == 0x205F || n == 0x3000

/-- How a character is written inside double quotes. -/
def escapeInDoubleQuotes (c : Char) : List Char :=
  if c = '\x00' then ['\\', '0']
  else if c = '\t' then ['\\', 't']
  else if c = '\r' then ['\\', 'r']
  else if c = '\n' then ['\\', 'n']
  else if c = '\\' then ['\\', '\\']
  else if c = '"' then ['\\', '"']
  else if Unicode.isGraphemeExtend c || !Unicode.isPrintable c then unicodeEscape c
  else [c]

def quoted (s : String) : String :=
  String.ofList ('"' :: s.toList.flatMap escapeInDoubleQuotes ++ ['"'])

/-- A value as a message shows it: quoted when it holds white space, else as it is. -/
def shown (s : String) : String :=
  if s.toList.any isWhiteSpace then quoted s else s

end Lexis.Text
