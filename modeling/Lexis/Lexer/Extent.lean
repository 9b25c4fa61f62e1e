import Lexis.Chars
import Lexis.LexError
import Lexis.Token

/-!
How far each scanner reads at the front of a text. A scanner reads a prefix of the text ahead
and then either completes a token or stops with a lexical error; `Extent` records the number
of characters it read and which of the two happened. Each function here is a plain recursion
on the characters ahead, and the lexer moves its cursor by exactly the extent.

The rules, in the order in which a scanner tries them:

* identifier: a letter or underscore, then letters, digits, underscores and hyphens;
* number: a sign when a digit follows, digits, then `.` and digits when a digit follows the
  point, then `e` or `E` with an optional sign when a digit follows; a fraction or an exponent
  makes the number decimal;
* character literal: a quote, one body character or an escape, and a closing quote;
* string literal: a double quote, body characters and escapes, and a closing double quote;
* operator: one of `< > ! =` with an optional `=`, or one operator character;
* blank run and comment: the longest run of blanks; `//` up to the next line break.

A scanner whose first character is wrong has no extent (`none`): its caller must not enter it
there.
-/

namespace Lexis

/-- How far a scan reads: `length` characters, and then a result or a lexical error found
right after them. -/
structure Extent (α : Type) where
  length : Nat
  outcome : Except LexErrorKind α

namespace Extent

/-- The same outcome after `k` more characters read in front. -/
def after {α : Type} (k : Nat) (e : Extent α) : Extent α := ⟨e.length + k, e.outcome⟩

@[simp] theorem after_length {α : Type} (k : Nat) (e : Extent α) :
    (e.after k).length = e.length + k := rfl

@[simp] theorem after_outcome {α : Type} (k : Nat) (e : Extent α) :
    (e.after k).outcome = e.outcome := rfl

end Extent

namespace Extent

open Chars

/-- The number of digits at the front of a text. -/
def digitRun (cs : List Char) : Nat := (cs.takeWhile isDigit).length

/-- The length of the identifier at the front of a text. -/
def identifier : List Char → Option Nat
  | c :: r => if isIdentStart c then some (1 + (r.takeWhile isIdentContinue).length) else none
  | [] => none

/-- The length of a fraction (a point, then digits) at the front of a text, or zero when no
digit follows the point. -/
def fraction : List Char → Nat
  | d :: x :: r => if isDot d && isDigit x then 2 + digitRun r else 0
  | _ => 0

/-- The length of an exponent (a mark, an optional sign, then digits) at the front of a text,
or zero when no digit follows. -/
def exponent : List Char → Nat
  | e :: s :: x :: r =>
    if isExponent e && isSign s && isDigit x then 3 + digitRun r
    else if isExponent e && isDigit s then 2 + digitRun (x :: r)
    else 0
  | e :: x :: [] => if isExponent e && isDigit x then 2 else 0
  | _ => 0

/-- The length of the sign in front of a number: one when a digit follows it. -/
def sign : List Char → Nat
  | s :: d :: _ => if isSign s && isDigit d then 1 else 0
  | _ => 0

/-- The length and kind of the number at the front of a text. -/
def number (cs : List Char) : Option (Nat × TokenKind) :=
  let afterSign := cs.drop (sign cs)
  let digits := digitRun afterSign
  if digits = 0 then none
  else
    let afterDigits := afterSign.drop digits
    let frac := fraction afterDigits
    let exp := exponent (afterDigits.drop frac)
    some (sign cs + digits + frac + exp, if frac + exp = 0 then .integer else .decimal)

/-- The extent of an escape at the front of a text that starts with a backslash. -/
def escape : List Char → Option (Extent Unit)
  | c :: r =>
    if isBackslash c then
      match r with
      | x :: _ => some (if isEscapeLetter x then ⟨2, .ok ()⟩ else ⟨1, .error .invalidEscape⟩)
      | [] => some ⟨1, .error .invalidEscape⟩
    else none
  | [] => none

/-- The extent of the closing quote of a character literal, after a body of `n` characters. -/
def closeCharacter (n : Nat) : List Char → Extent TokenKind
  | c :: _ => if isSingleQuote c then ⟨n + 1, .ok .character⟩
    else ⟨n, .error .unterminatedCharacterLiteral⟩
  | [] => ⟨n, .error .unterminatedCharacterLiteral⟩

/-- The extent of a character literal after its opening quote. -/
def characterBody : List Char → Extent TokenKind
  | c :: r =>
    if isBackslash c then
      match r with
      | x :: r' => if isEscapeLetter x then closeCharacter 2 r' else ⟨1, .error .invalidEscape⟩
      | [] => ⟨1, .error .invalidEscape⟩
    else if isCharacterBody c then closeCharacter 1 r
    else ⟨0, .error .invalidCharacterLiteral⟩
  | [] => ⟨0, .error .invalidCharacterLiteral⟩

def character : List Char → Option (Extent TokenKind)
  | c :: r => if isSingleQuote c then some ((characterBody r).after 1) else none
  | [] => none

/-- The extent of a string literal after its opening quote. -/
def stringBody : List Char → Extent TokenKind
  | c :: r =>
    if isDoubleQuote c then ⟨1, .ok .string⟩
    else if isBackslash c then
      match r with
      | x :: r' => if isEscapeLetter x then (stringBody r').after 2 else ⟨1, .error .invalidEscape⟩
      | [] => ⟨1, .error .invalidEscape⟩
    else if isStringBody c then (stringBody r).after 1
    else if isLineBreak c then ⟨0, .error .newlineInStringLiteral⟩
    else ⟨0, .error .invalidStringCharacter⟩
  | [] => ⟨0, .error .unterminatedStringLiteral⟩

/-- The extent of the string literal at the front of a text; without an opening double quote
the scan reads nothing and fails. -/
def string : List Char → Extent TokenKind
  | c :: r => if isDoubleQuote c then (stringBody r).after 1
    else ⟨0, .error .expectedStringStart⟩
  | [] => ⟨0, .error .expectedStringStart⟩

/-- The extent of the operator at the front of a text. -/
def operator : List Char → Option (Extent TokenKind)
  | c :: r =>
    if isComparison c then
      some ⟨match r with
        | x :: _ => if isEquals x then 2 else 1
        | [] => 1, .ok .operator⟩
    else if isOperator c then some ⟨1, .ok .operator⟩
    else some ⟨0, .error (.unexpectedCharacter c)⟩
  | [] => none

/-- The length of the blank run at the front of a text. -/
def blank (cs : List Char) : Nat := (cs.takeWhile isBlank).length

/-- The length of the comment at the front of a text: two slashes and everything up to the
next line break. -/
def comment : List Char → Option Nat
  | a :: b :: r =>
    if isSlash a && isSlash b then some (2 + (r.takeWhile fun c => !isLineBreak c).length)
    else none
  | _ => none

end Extent

end Lexis
