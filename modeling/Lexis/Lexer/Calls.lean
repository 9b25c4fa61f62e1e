import Lexis.Lexer.Run

/-!
The lexer's interface as data: a `Lexer.Call` names one of its operations, and
`Lexer.performAll` runs a list of calls on one lexer. A refused call (a fault) leaves the lexer
as it was. A scanner called where the driver loop would not call it still behaves as written:
what it consumes before a lexical error stays pending and joins the next token.
-/

namespace Lexis

namespace Lexer

inductive Call where
  | next
  | nextToken
  | lexToken
  | lexIdentifier
  | lexNumber
  | lexCharacter
  | lexString
  | lexOperator
  | classify
  | lexEscape
  | skipBlank
  | skipComment
  deriving DecidableEq, Repr

inductive Answer where
  /-- An item of the token stream; `none` when it has nothing more. -/
  | item (r : Option (Except LexError Token))
  /-- The result of a scanner. -/
  | scanned (r : Except LexError Token)
  /-- The class of the token ahead. -/
  | classified (k : TokenClass)
  /-- The result of an escape scan. -/
  | escaped (r : Except LexError Unit)
  | skipped

/-- A scanner that cannot fail with a lexical error, as one that can. -/
def scanned (r : Except Fault (Lexer × Token)) : Except Fault (Answer × Lexer) :=
  match r with
  | .error f => .error f
  | .ok (lx, t) => .ok (.scanned (.ok t), lx)

def perform (lx : Lexer) : Call → Except Fault (Answer × Lexer)
  | .next => lx.next.map fun (lx, r) => (.item r, lx)
  | .nextToken => lx.nextToken.map fun (lx, r) => (.item r, lx)
  | .lexToken => lx.lexToken.map fun (lx, r) => (.scanned r, lx)
  | .lexIdentifier => scanned lx.lexIdentifier
  | .lexNumber => scanned lx.lexNumber
  | .lexCharacter => lx.lexCharacter.map fun (lx, r) => (.scanned r, lx)
  | .lexString => lx.lexString.map fun (lx, r) => (.scanned r, lx)
  | .lexOperator => lx.lexOperator.map fun (lx, r) => (.scanned r, lx)
  | .classify => .ok (.classified lx.classify, lx)
  | .lexEscape => lx.lexEscape.map fun (lx, r) => (.escaped r, lx)
  | .skipBlank => lx.skipBlank.map fun lx => (.skipped, lx)
  | .skipComment => lx.skipComment.map fun lx => (.skipped, lx)

/-- Performs calls in order on one lexer and gives each answer or fault; a refused call leaves
the lexer as it was. -/
def performAll (lx : Lexer) : List Call → List (Except Fault Answer)
  | [] => []
  | call :: calls =>
    match lx.perform call with
    | .error f => .error f :: performAll lx calls
    | .ok (a, lx') => .ok a :: performAll lx' calls

end Lexer

end Lexis
