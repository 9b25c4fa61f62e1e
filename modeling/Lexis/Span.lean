import Lexis.Fault

/-!
Spans: half-open ranges `[start, stop)` of character offsets into a source text. Offsets count
characters (Unicode scalar values), not bytes. A span never runs backwards: the field
`start_le` carries `start ≤ stop`, and `Span.make?` refuses a reversed pair with a fault.
-/

namespace Lexis

/-- A range of character offsets, from `start` up to but not including `stop`. -/
structure Span where
  start : Nat
  stop : Nat
  start_le : start ≤ stop
  deriving DecidableEq, Repr

namespace Span

/-- The span from `start` to `stop`, or a fault when `stop < start`. -/
def make? (start stop : Nat) : Except Fault Span :=
  if h : start ≤ stop then .ok ⟨start, stop, h⟩ else .error (.reversedSpan start stop)

def len (s : Span) : Nat := s.stop - s.start

def isEmpty (s : Span) : Bool := s.start == s.stop

theorem make?_eq_ok {start stop : Nat} {s : Span} :
    make? start stop = .ok s ↔ s.start = start ∧ s.stop = stop := by
  unfold make?
  split
  · constructor
    · intro h; cases h; exact ⟨rfl, rfl⟩
    · rintro ⟨h1, h2⟩; cases s; subst h1; subst h2; rfl
  · constructor
    · intro h; cases h
    · rintro ⟨rfl, rfl⟩; exact absurd s.start_le ‹_›

end Span

end Lexis
