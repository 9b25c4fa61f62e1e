import Lexis.Text.CharLiteral

/-!
Faults: calls whose precondition does not hold. A scanner that is entered at the wrong
character, an emit with nothing consumed, or a span whose start lies past its end is refused
with a fault, and the refused call changes nothing. So is a cut of the source between byte
offsets that are not character boundaries in order, and a span start counted below zero; a
cursor that stays in step with its text never meets these two. The driver loop of the lexer
checks every precondition before it calls a scanner, so a whole lexing pass never meets a fault.
-/

namespace Lexis

/-- The byte offset of the last character boundary at or before byte `b` of a text. -/
def floorBoundary : List Char → Nat → Nat
  | [], _ => 0
  | c :: cs, b => if c.utf8Size ≤ b then c.utf8Size + floorBoundary cs (b - c.utf8Size) else 0

/-- The character whose encoding holds byte `b` of a text, with the offset of its first byte. -/
def charHolding : List Char → Nat → Option (Nat × Char)
  | [], _ => none
  | c :: cs, b =>
    if b < c.utf8Size then some (0, c)
    else (charHolding cs (b - c.utf8Size)).map fun p => (c.utf8Size + p.1, p.2)

/-- How a cut of a text between the byte offsets `start` and `stop` is refused, with the text
shown up to its first 256 bytes: an offset past the end, a range that runs backwards, or an
offset inside a character, in this order. -/
def cutMessage (s : String) (start stop : Nat) : String :=
  let shownLength := floorBoundary s.toList 256
  let shown := "`" ++ String.Pos.Raw.extract s ⟨0⟩ ⟨shownLength⟩ ++ "`" ++
    (if shownLength < s.utf8ByteSize then "[...]" else "")
  if s.utf8ByteSize < start ∨ s.utf8ByteSize < stop then
    "byte index " ++ toString (if s.utf8ByteSize < start then start else stop) ++
      " is out of bounds of " ++ shown
  else if stop < start then
    "begin <= end (" ++ toString start ++ " <= " ++ toString stop ++ ") when slicing " ++ shown
  else
    let index := if String.Pos.Raw.IsValid s ⟨start⟩ then stop else start
    match charHolding s.toList index with
    | some (first, c) =>
      "byte index " ++ toString index ++ " is not a char boundary; it is inside " ++
        Text.charLiteral c ++ " (bytes " ++ toString first ++ ".." ++
        toString (first + c.utf8Size) ++ ") of " ++ shown
    | none => "byte index " ++ toString index ++ " is out of bounds of " ++ shown

/-- A broken precondition of a call. -/
inductive Fault where
  /-- An emit with no consumed character waiting. -/
  | emitNothing
  | identifierStart
  | numberStart
  | characterStart
  | escapeStart
  | commentStart
  /-- An operator scan at the end of the input. -/
  | operatorAtEnd
  /-- A span from `start` to `stop` with `stop < start`. -/
  | reversedSpan (start stop : Nat)
  /-- A cut of `source` between byte offsets that are not two character boundaries in order. -/
  | cutOffBoundary (source : String) (start stop : Nat)
  /-- A span start `index - pending` with more characters pending than consumed. -/
  | pendingPastIndex (index pending : Nat)
  deriving DecidableEq, Repr

namespace Fault

/-- The text that reports a fault. -/
def message : Fault → String
  | emitNothing => "emit called with no pending match"
  | identifierStart => "identifier must start with a letter or underscore"
  | numberStart => "number must start with a digit or a signed digit"
  | characterStart => "character literal must start with a single quote"
  | escapeStart => "escape sequence must start with a backslash"
  | commentStart => "comment must start with //"
  | operatorAtEnd => "internal error: entered unreachable code: operator scan past end of input"
  | reversedSpan start stop => s!"span start {start} is past end {stop}"
  | cutOffBoundary source start stop => cutMessage source start stop
  | pendingPastIndex _ _ => "attempt to subtract with overflow"

end Fault

example : cutMessage "aé" 2 3 =
    "byte index 2 is not a char boundary; it is inside 'é' (bytes 1..3) of `aé`" := by
  decide +kernel

end Lexis
