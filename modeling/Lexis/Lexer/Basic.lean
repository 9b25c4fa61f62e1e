import Lexis.Cursor
import Lexis.Lexer.Extent

/-!
The lexer state and its scanners. A lexer is a cursor, a flag that says whether an operand
ends the text consumed so far, and a flag that a finished pass sets after an error.

Each scanner reads the extent of its token class at the cursor (`Lexis.Extent`), moves the
cursor over it and then either emits the pending run as a token or reports the lexical error
found at the new index. A lexical error leaves the consumed characters pending, so the next
token that is emitted covers them too. A scanner entered at a character its class cannot start
with is refused with a fault and changes nothing.
-/

namespace Lexis

/-- How the next token is classified, from the characters ahead. -/
inductive TokenClass where
  | identifier
  | number
  | character
  | string
  | operator
  deriving DecidableEq, Repr

namespace Token

/-- Whether an operand ends with this token: every token but an operator does, and so do the
closing brackets. After an operand a sign is an operator, elsewhere it may start a number. -/
def endsOperand (t : Token) : Bool :=
  t.kind != .operator || t.text == ")" || t.text == "]" || t.text == "\x7d"

end Token

structure Lexer where
  cursor : Cursor
  /-- Whether the last token emitted ends an operand. -/
  afterOperand : Bool
  /-- Whether the token stream has ended with an error. -/
  stopped : Bool
  deriving DecidableEq, Repr

namespace Lexer

def start (s : String) : Lexer := ⟨Cursor.start s, false, false⟩

/-- The same lexer with its cursor moved over `k` characters. -/
def skip (lx : Lexer) (k : Nat) : Lexer := { lx with cursor := lx.cursor.advance k }

/-- The class of the token ahead: the first that applies of identifier, number (a digit, or a
sign and a digit when no operand comes before), character, string and operator. -/
def classify (lx : Lexer) : TokenClass :=
  let c := lx.cursor
  if c.peek [Chars.isIdentStart] then .identifier
  else if c.peek [Chars.isDigit] || (!lx.afterOperand && c.peek [Chars.isSign, Chars.isDigit])
  then .number
  else if c.peek [Chars.isSingleQuote] then .character
  else if c.peek [Chars.isDoubleQuote] then .string
  else .operator

/-- Emits the pending run as a token of a kind and records whether it ends an operand. -/
def emitToken (lx : Lexer) (kind : TokenKind) : Except Fault (Lexer × Token) :=
  match lx.cursor.emit with
  | .error f => .error f
  | .ok (l, c) =>
    let t : Token := ⟨kind, l.text, l.span⟩
    .ok ({ lx with cursor := c, afterOperand := t.endsOperand }, t)

/-- The lexical error of a kind at the cursor's index. -/
def errorHere (lx : Lexer) (k : LexErrorKind) : LexError := ⟨k, lx.cursor.index⟩

/-- Moves over an extent, then emits its token or reports its error. -/
def finish (lx : Lexer) (e : Extent TokenKind) : Except Fault (Lexer × Except LexError Token) :=
  let lx := lx.skip e.length
  match e.outcome with
  | .ok kind =>
    match lx.emitToken kind with
    | .error f => .error f
    | .ok (lx, t) => .ok (lx, .ok t)
  | .error k => .ok (lx, .error (lx.errorHere k))

def lexIdentifier (lx : Lexer) : Except Fault (Lexer × Token) :=
  match Extent.identifier lx.cursor.rest with
  | none => .error .identifierStart
  | some n => (lx.skip n).emitToken .identifier

/-- Scans a number: an integer, or a decimal when it has a fraction or an exponent. -/
def lexNumber (lx : Lexer) : Except Fault (Lexer × Token) :=
  match Extent.number lx.cursor.rest with
  | none => .error .numberStart
  | some (n, kind) => (lx.skip n).emitToken kind

/-- Scans an escape: a backslash and an escape letter. -/
def lexEscape (lx : Lexer) : Except Fault (Lexer × Except LexError Unit) :=
  match Extent.escape lx.cursor.rest with
  | none => .error .escapeStart
  | some e =>
    let lx := lx.skip e.length
    match e.outcome with
    | .ok () => .ok (lx, .ok ())
    | .error k => .ok (lx, .error (lx.errorHere k))

def lexCharacter (lx : Lexer) : Except Fault (Lexer × Except LexError Token) :=
  match Extent.character lx.cursor.rest with
  | none => .error .characterStart
  | some e => lx.finish e

def lexString (lx : Lexer) : Except Fault (Lexer × Except LexError Token) :=
  lx.finish (Extent.string lx.cursor.rest)

def lexOperator (lx : Lexer) : Except Fault (Lexer × Except LexError Token) :=
  match Extent.operator lx.cursor.rest with
  | none => .error .operatorAtEnd
  | some e => lx.finish e

/-- Skips a run of blanks; a fault when nothing at all is pending afterwards. -/
def skipBlank (lx : Lexer) : Except Fault Lexer :=
  match (lx.skip (Extent.blank lx.cursor.rest)).cursor.emit with
  | .error f => .error f
  | .ok (_, c) => .ok { lx with cursor := c }

/-- Skips a comment up to, not including, the next line break. -/
def skipComment (lx : Lexer) : Except Fault Lexer :=
  match Extent.comment lx.cursor.rest with
  | none => .error .commentStart
  | some n =>
    match (lx.skip n).cursor.emit with
    | .error f => .error f
    | .ok (_, c) => .ok { lx with cursor := c }

/-- Scans the token ahead with the scanner of its class. -/
def lexToken (lx : Lexer) : Except Fault (Lexer × Except LexError Token) :=
  let ok (r : Except Fault (Lexer × Token)) : Except Fault (Lexer × Except LexError Token) :=
    match r with
    | .error f => .error f
    | .ok (lx, t) => .ok (lx, .ok t)
  match lx.classify with
  | .identifier => ok lx.lexIdentifier
  | .number => ok lx.lexNumber
  | .character => lx.lexCharacter
  | .string => lx.lexString
  | .operator => lx.lexOperator

/-! ### What the skips do to the text ahead -/

@[simp] theorem skip_rest (lx : Lexer) (k : Nat) :
    (lx.skip k).cursor.rest = lx.cursor.rest.drop k := Cursor.advance_rest k lx.cursor

theorem skipBlank_rest {lx lx' : Lexer} (h : lx.skipBlank = .ok lx') :
    lx'.cursor.rest = lx.cursor.rest.drop (Extent.blank lx.cursor.rest) := by
  unfold skipBlank at h
  split at h
  · cases h
  · next l c he =>
    cases h
    simp [Cursor.rest_of_emit he]

theorem skipComment_rest {lx lx' : Lexer} {n : Nat} (hn : Extent.comment lx.cursor.rest = some n)
    (h : lx.skipComment = .ok lx') : lx'.cursor.rest = lx.cursor.rest.drop n := by
  unfold skipComment at h
  rw [hn] at h
  simp only at h
  split at h
  · cases h
  · next l c he =>
    cases h
    simp [Cursor.rest_of_emit he]

end Lexer

end Lexis
