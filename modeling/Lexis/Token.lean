import Lexis.Span
import Lexis.Text.Json

/-!
Tokens: a kind, the exact source text of the token (quotes and escapes kept as written) and
the span it covers. A token is shown as `Token[type=KIND, literal=TEXT]`, and written in JSON
as an object with the fields `kind`, `literal` and `span` (`start`, `end`), in that order.
-/

namespace Lexis

/-- The six kinds of token. -/
inductive TokenKind where
  | identifier
  | integer
  | decimal
  | character
  | string
  | operator
  deriving DecidableEq, Repr

namespace TokenKind

def name : TokenKind → String
  | identifier => "IDENTIFIER"
  | integer => "INTEGER"
  | decimal => "DECIMAL"
  | character => "CHARACTER"
  | string => "STRING"
  | operator => "OPERATOR"

def all : List TokenKind := [identifier, integer, decimal, character, string, operator]

def ofName? (s : String) : Option TokenKind := all.find? (·.name == s)

end TokenKind

/-- A token: its kind, its source text and the span of that text. -/
structure Token where
  kind : TokenKind
  text : String
  span : Span
  deriving DecidableEq, Repr

namespace Token

/-- The token of a kind and text over the span from `start` to `stop`, or a fault when the span
runs backwards. -/
def make? (kind : TokenKind) (text : String) (start stop : Nat) : Except Fault Token :=
  (Span.make? start stop).map fun span => ⟨kind, text, span⟩

def display (t : Token) : String :=
  "Token[type=" ++ t.kind.name ++ ", literal=" ++ t.text ++ "]"

def toJson (t : Token) : Text.Json :=
  .obj [("kind", .str t.kind.name), ("literal", .str t.text),
    ("span", .obj [("start", .num t.span.start), ("end", .num t.span.stop)])]

end Token

end Lexis
