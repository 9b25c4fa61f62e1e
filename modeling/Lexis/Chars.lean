/-!
Character classes of the source language. Each class is a decidable test on one character;
the scanners are written against these tests only. Letters and digits are ASCII: a letter or
digit from another script is an operator character.

`CharClass` names the classes, so that a class can be chosen at run time, and lists them in
a fixed order.
-/

namespace Lexis.Chars

def isBlank (c : Char) : Bool :=
  c = ' ' || c = '\t' || c = '\n' || c = '\x0B' || c = '\x0C' || c = '\r'

def isLineBreak (c : Char) : Bool := c = '\n' || c = '\r'

def isIdentStart (c : Char) : Bool := c.isAlpha || c = '_'

def isIdentContinue (c : Char) : Bool := c.isAlphanum || c = '_' || c = '-'

def isDigit (c : Char) : Bool := c.isDigit

def isSign (c : Char) : Bool := c = '+' || c = '-'

def isDot (c : Char) : Bool := c = '.'

def isExponent (c : Char) : Bool := c = 'e' || c = 'E'

/-- A slash; two of them open a comment. -/
def isSlash (c : Char) : Bool := c = '/'

def isSingleQuote (c : Char) : Bool := c = '\''

def isDoubleQuote (c : Char) : Bool := c = '"'

def isBackslash (c : Char) : Bool := c = '\\'

def isEscapeLetter (c : Char) : Bool :=
  c = 'b' || c = 'n' || c = 'r' || c = 't' || c = '\'' || c = '"' || c = '\\'

def isCharacterBody (c : Char) : Bool := !(c = '\'' || c = '\n' || c = '\r' || c = '\\')

def isStringBody (c : Char) : Bool := !(c = '"' || c = '\n' || c = '\r' || c = '\\')

/-- The first character of a comparison, which an equals sign may follow. -/
def isComparison (c : Char) : Bool := c = '<' || c = '>' || c = '!' || c = '='

def isEquals (c : Char) : Bool := c = '='

/-- A character that stands alone as an operator: all but ASCII letters and digits, the
underscore, both quotes, space, line feed, carriage return, tab and backspace. -/
def isOperator (c : Char) : Bool :=
  !(c.isAlphanum || c = '_' || c = '\'' || c = '"' || c = ' ' || c = '\n' || c = '\r' ||
    c = '\t' || c = '\x08')

end Lexis.Chars

namespace Lexis

/-- The named character classes, and `any`, which every character is in. -/
inductive CharClass where
  | blank
  | lineBreak
  | identStart
  | identContinue
  | digit
  | sign
  | dot
  | exponent
  | slash
  | singleQuote
  | doubleQuote
  | backslash
  | escapeLetter
  | characterBody
  | stringBody
  | comparison
  | equals
  | operator
  | any
  deriving DecidableEq, Repr

namespace CharClass

def holds : CharClass → Char → Bool
  | blank => Chars.isBlank
  | lineBreak => Chars.isLineBreak
  | identStart => Chars.isIdentStart
  | identContinue => Chars.isIdentContinue
  | digit => Chars.isDigit
  | sign => Chars.isSign
  | dot => Chars.isDot
  | exponent => Chars.isExponent
  | slash => Chars.isSlash
  | singleQuote => Chars.isSingleQuote
  | doubleQuote => Chars.isDoubleQuote
  | backslash => Chars.isBackslash
  | escapeLetter => Chars.isEscapeLetter
  | characterBody => Chars.isCharacterBody
  | stringBody => Chars.isStringBody
  | comparison => Chars.isComparison
  | equals => Chars.isEquals
  | operator => Chars.isOperator
  | any => fun _ => true

/-- The named classes in their listing order; `any` is not among them. -/
def named : List CharClass :=
  [blank, lineBreak, identStart, identContinue, digit, sign, dot, exponent, slash, singleQuote,
    doubleQuote, backslash, escapeLetter, characterBody, stringBody, comparison, equals, operator]

def of (c : Char) : List CharClass := named.filter (·.holds c)

end CharClass

end Lexis
