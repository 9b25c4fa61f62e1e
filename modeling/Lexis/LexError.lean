import Lexis.Text.CharLiteral

/-!
Lexical errors: what went wrong and the character offset where the scanner stood when it
found out. Each kind has one message; an error is displayed as `MESSAGE at offset N`.
-/

namespace Lexis

/-- What a scanner found wrong. -/
inductive LexErrorKind where
  /-- A character literal with no body, or a body that is a quote or a line break. -/
  | invalidCharacterLiteral
  /-- A character literal whose body is not followed by a quote. -/
  | unterminatedCharacterLiteral
  /-- A string scan not at a double quote. -/
  | expectedStringStart
  /-- A string literal that the end of the input cuts off. -/
  | unterminatedStringLiteral
  /-- A string literal with a line break in it. -/
  | newlineInStringLiteral
  /-- A string literal with a character that no rule takes. -/
  | invalidStringCharacter
  /-- A backslash not followed by an escape letter. -/
  | invalidEscape
  /-- A character that starts no token. -/
  | unexpectedCharacter (c : Char)
  deriving DecidableEq, Repr

namespace LexErrorKind

def message : LexErrorKind → String
  | invalidCharacterLiteral => "Invalid or empty character literal"
  | unterminatedCharacterLiteral => "Unterminated character literal"
  | expectedStringStart => "String literal must start with a double quote"
  | unterminatedStringLiteral => "Unterminated string literal"
  | newlineInStringLiteral => "String literal cannot contain a raw line break"
  | invalidStringCharacter => "Invalid character in string literal"
  | invalidEscape => "Invalid escape sequence"
  | unexpectedCharacter c =>
    "Unexpected character " ++ Text.charLiteral c ++ "; not a valid operator"

end LexErrorKind

/-- A lexical error and the character offset where it was found. -/
structure LexError where
  kind : LexErrorKind
  offset : Nat
  deriving DecidableEq, Repr

namespace LexError

def message (e : LexError) : String := e.kind.message

def display (e : LexError) : String := e.message ++ " at offset " ++ toString e.offset

end LexError

end Lexis
