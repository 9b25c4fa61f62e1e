import Lexis.Lexer.Run
import Lexis.Report

/-!
Listings of tokens. In text form each token is one line, `Token[type=KIND, literal=TEXT]`,
followed by ` @ START..END` when spans are shown. In JSON form the tokens are a pretty-printed
array of `{kind, literal, span}` objects, followed by a line feed; spans are always part of it.
A source with a lexical error has no listing but the error's report.
-/

namespace Lexis

inductive ListingFormat where
  | text
  | json
  deriving DecidableEq, Repr

namespace ListingFormat

def name : ListingFormat → String
  | text => "text"
  | json => "json"

def ofName? : String → Option ListingFormat
  | "text" => some text
  | "json" => some json
  | _ => none

end ListingFormat

/-- A token on a line of its own, with its span when spans are shown. -/
def Token.line (t : Token) (showSpans : Bool) : String :=
  t.display ++
    (if showSpans then " @ " ++ toString t.span.start ++ ".." ++ toString t.span.stop else "") ++
    "\n"

def listing (format : ListingFormat) (showSpans : Bool) (ts : List Token) : String :=
  match format with
  | .text => String.join (ts.map (·.line showSpans))
  | .json => (Text.Json.arr (ts.map Token.toJson)).pretty 0 ++ "\n"

/-- The listing of the tokens of a source, or the report of its first lexical error. -/
def listSource (format : ListingFormat) (showSpans : Bool) (source : String) :
    Except Fault (Except String String) :=
  (lex source).map fun
    | .ok ts => .ok (listing format showSpans ts)
    | .error e => .error (e.report source)

end Lexis
