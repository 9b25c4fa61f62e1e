import Lexis.Cursor

/-!
The cursor's interface as data: a `Cursor.Call` names one operation with its arguments, and
`Cursor.performAll` runs a list of calls in order. A lookahead or a match takes any tests of
characters, as the cursor does. A refused call (a fault) leaves the cursor as it was, and the
calls after it go on from there. Statements about every sequence of cursor operations quantify
over a list of calls.
-/

namespace Lexis

namespace Cursor

inductive Call where
  | has (n : Nat)
  | peek (tests : List (Char → Bool))
  | matchSeq (tests : List (Char → Bool))
  | peekChar (x : Char)
  | matchChar (x : Char)
  | matchWhile (test : Char → Bool)
  | matchAny
  | emit
  | current
  | isAtEnd
  | index
  | pending
  | remaining

inductive Answer where
  | flag (b : Bool)
  | count (n : Nat)
  | lexeme (l : Lexeme)
  | char (x : Option Char)
  | text (s : String)

def perform (c : Cursor) : Call → Except Fault (Answer × Cursor)
  | .has n => .ok (.flag (c.has n), c)
  | .peek tests => .ok (.flag (c.peek tests), c)
  | .matchSeq tests =>
    let (b, c') := c.matchSeq tests
    .ok (.flag b, c')
  | .peekChar x => .ok (.flag (c.peekChar x), c)
  | .matchChar x =>
    let (b, c') := c.matchChar x
    .ok (.flag b, c')
  | .matchWhile test =>
    let (n, c') := c.matchWhile test
    .ok (.count n, c')
  | .matchAny =>
    let (b, c') := c.matchAny
    .ok (.flag b, c')
  | .emit =>
    match c.emit with
    | .error f => .error f
    | .ok (l, c') => .ok (.lexeme l, c')
  | .current => .ok (.char c.current, c)
  | .isAtEnd => .ok (.flag c.isAtEnd, c)
  | .index => .ok (.count c.index, c)
  | .pending => .ok (.count c.pending, c)
  | .remaining => .ok (.text c.remaining, c)

@[simp] theorem perform_matchSeq (c : Cursor) (tests : List (Char → Bool)) :
    c.perform (.matchSeq tests) = .ok (.flag (c.matchSeq tests).1, (c.matchSeq tests).2) := rfl

@[simp] theorem perform_matchChar (c : Cursor) (x : Char) :
    c.perform (.matchChar x) = .ok (.flag (c.matchChar x).1, (c.matchChar x).2) := rfl

@[simp] theorem perform_matchWhile (c : Cursor) (test : Char → Bool) :
    c.perform (.matchWhile test) = .ok (.count (c.matchWhile test).1, (c.matchWhile test).2) :=
  rfl

@[simp] theorem perform_matchAny (c : Cursor) :
    c.perform .matchAny = .ok (.flag c.matchAny.1, c.matchAny.2) := rfl

/-- Performs calls in order. Each entry holds the answer of a call (or its fault) and the
cursor after it; a refused call leaves the cursor as it was. -/
def performAll (c : Cursor) : List Call → List (Except Fault Answer × Cursor)
  | [] => []
  | call :: calls =>
    match c.perform call with
    | .error f => (.error f, c) :: performAll c calls
    | .ok (a, c') => (.ok a, c') :: performAll c' calls

end Cursor

end Lexis
