/-!
JSON text. A string is written between double quotes; the quote and the backslash are
escaped, the control characters backspace, form feed, line feed, carriage return and tab take
their short escapes, every other character below U+0020 is written as `\u00xx` in lowercase
hexadecimal, and all other characters are written as they are.

The writers here build the two layouts of a JSON document: compact (no blank at all) and
pretty (two blanks of indent per level, a blank after each colon, `[]` and `{}` when empty).
-/

namespace Lexis.Text

inductive Json where
  | str (s : String)
  | num (n : Nat)
  | arr (items : List Json)
  | obj (fields : List (String × Json))

namespace Json

/-- The two lowercase hexadecimal digits of a number below 256. -/
def hexByte (n : Nat) : List Char :=
  let digit (d : Nat) : Char := if d < 10 then Char.ofNat (48 + d) else Char.ofNat (87 + d)
  [digit (n / 16 % 16), digit (n % 16)]

/-- How a character is written inside a JSON string. -/
def escapeChar (c : Char) : List Char :=
  if c = '"' then ['\\', '"']
  else if c = '\\' then ['\\', '\\']
  else if c = '\x08' then ['\\', 'b']
  else if c = '\x0C' then ['\\', 'f']
  else if c = '\n' then ['\\', 'n']
  else if c = '\r' then ['\\', 'r']
  else if c = '\t' then ['\\', 't']
  else if c.toNat < 0x20 then ['\\', 'u', '0', '0'] ++ hexByte c.toNat
  else [c]

def quote (s : String) : String :=
  String.ofList ('"' :: s.toList.flatMap escapeChar ++ ['"'])

mutual

def compact : Json → String
  | str s => quote s
  | num n => toString n
  | arr items => "[" ++ compactItems items ++ "]"
  | obj fields => "\x7b" ++ compactFields fields ++ "\x7d"

/-- The compact texts of array items, separated by commas. -/
def compactItems : List Json → String
  | [] => ""
  | [j] => compact j
  | j :: js => compact j ++ "," ++ compactItems js

/-- The compact texts of object fields, separated by commas. -/
def compactFields : List (String × Json) → String
  | [] => ""
  | [(k, j)] => quote k ++ ":" ++ compact j
  | (k, j) :: fs => quote k ++ ":" ++ compact j ++ "," ++ compactFields fs

end

/-- The blanks before a line at a nesting depth. -/
def indent (depth : Nat) : String := String.ofList (List.replicate (2 * depth) ' ')

mutual

/-- The pretty text of a value whose first line is already indented to `depth`. -/
def pretty (depth : Nat) : Json → String
  | str s => quote s
  | num n => toString n
  | arr [] => "[]"
  | arr items => "[\n" ++ prettyItems (depth + 1) items ++ "\n" ++ indent depth ++ "]"
  | obj [] => "\x7b\x7d"
  | obj fields =>
    "\x7b\n" ++ prettyFields (depth + 1) fields ++ "\n" ++ indent depth ++ "\x7d"

/-- Array items on lines of their own, at a depth. -/
def prettyItems (depth : Nat) : List Json → String
  | [] => ""
  | [j] => indent depth ++ pretty depth j
  | j :: js => indent depth ++ pretty depth j ++ ",\n" ++ prettyItems depth js

/-- Object fields on lines of their own, at a depth. -/
def prettyFields (depth : Nat) : List (String × Json) → String
  | [] => ""
  | [(k, j)] => indent depth ++ quote k ++ ": " ++ pretty depth j
  | (k, j) :: fs => indent depth ++ quote k ++ ": " ++ pretty depth j ++ ",\n" ++
      prettyFields depth fs

end

end Json

end Lexis.Text
