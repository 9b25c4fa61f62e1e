import Lexis.Span

/-!
The cursor: a position in a source text together with the run of characters consumed since
the last emit. Lookahead tests the characters ahead against a list of character tests;
a match consumes them and adds them to the pending run; an emit hands the pending run out as
a lexeme with its span and starts a new run.

The cursor keeps two positions: the number of characters consumed (`index`) and the byte
offset of the next character in the source (`position`). The pending run is counted in
characters (`pending`) and starts at a byte offset (`pendingStart`). Lookahead reads the
characters ahead (`rest`); an emit cuts its text out of the source by bytes and reports its
span in characters. The statements here say what each operation does to the characters ahead:
a match moves exactly the matched characters out of `rest`, a failed match changes nothing,
and an emit keeps `rest` and `index`. An emit whose byte offsets do not cut the source at two
character boundaries in order, or whose span would start below zero, is refused with a fault.
-/

namespace Lexis

/-- Whether a text begins with one character for each test, in order. The empty list of
tests holds of every text. -/
def startsWithAll : List (Char → Bool) → List Char → Bool
  | [], _ => true
  | _ :: _, [] => false
  | p :: ps, c :: cs => p c && startsWithAll ps cs

/-- A run of consumed text together with the span it covers. -/
structure Lexeme where
  text : String
  span : Span
  deriving DecidableEq, Repr

/-- A position in a source text and the run consumed since the last emit. -/
structure Cursor where
  source : String
  /-- The characters not yet consumed, those of the source from `position` on. -/
  rest : List Char
  /-- The number of characters consumed. -/
  index : Nat
  /-- The byte offset of the next character. -/
  position : Nat
  /-- The number of characters consumed since the last emit. -/
  pending : Nat
  /-- The byte offset where the pending run starts. -/
  pendingStart : Nat
  deriving DecidableEq, Repr

namespace Cursor

def start (s : String) : Cursor := ⟨s, s.toList, 0, 0, 0, 0⟩

/-- Whether more than `n` characters are left. -/
def has (c : Cursor) (n : Nat) : Bool := !(c.rest.drop n).isEmpty

/-- Whether the characters ahead pass the tests, one character per test. -/
def peek (c : Cursor) (tests : List (Char → Bool)) : Bool := startsWithAll tests c.rest

/-- Consumes one character, if one is left: the byte offset moves over its encoding. -/
def bump (c : Cursor) : Cursor :=
  match c.rest with
  | [] => c
  | x :: xs =>
    { c with rest := xs, index := c.index + 1, position := c.position + x.utf8Size,
             pending := c.pending + 1 }

/-- Consumes `k` characters, as far as they go. -/
def advance : Nat → Cursor → Cursor
  | 0, c => c
  | k + 1, c => advance k c.bump

/-- Consumes one character per test when all of them pass, and nothing otherwise. -/
def matchSeq (c : Cursor) (tests : List (Char → Bool)) : Bool × Cursor :=
  if c.peek tests then (true, c.advance tests.length) else (false, c)

def current (c : Cursor) : Option Char := c.rest.head?

def peekChar (c : Cursor) (x : Char) : Bool := c.current == some x

/-- Consumes the next character when it is `x`. -/
def matchChar (c : Cursor) (x : Char) : Bool × Cursor :=
  if c.peekChar x then (true, c.bump) else (false, c)

/-! ### What the moves do to the characters ahead -/

@[simp] theorem start_source (s : String) : (start s).source = s := rfl

@[simp] theorem start_rest (s : String) : (start s).rest = s.toList := rfl

@[simp] theorem start_index (s : String) : (start s).index = 0 := rfl

@[simp] theorem start_position (s : String) : (start s).position = 0 := rfl

@[simp] theorem start_pending (s : String) : (start s).pending = 0 := rfl

@[simp] theorem start_pendingStart (s : String) : (start s).pendingStart = 0 := rfl

@[simp] theorem startsWithAll_nil (cs : List Char) : startsWithAll [] cs = true := by
  cases cs <;> rfl

theorem has_iff (c : Cursor) (n : Nat) : c.has n = true ↔ n < c.rest.length := by
  simp [has]

theorem bump_of_rest_nil {c : Cursor} (h : c.rest = []) : c.bump = c := by
  simp [bump, h]

theorem bump_of_rest_cons {c : Cursor} {x : Char} {xs : List Char} (h : c.rest = x :: xs) :
    c.bump = { c with rest := xs, index := c.index + 1, position := c.position + x.utf8Size,
                      pending := c.pending + 1 } := by
  simp [bump, h]

@[simp] theorem bump_source (c : Cursor) : c.bump.source = c.source := by
  unfold bump; split <;> rfl

@[simp] theorem bump_pendingStart (c : Cursor) : c.bump.pendingStart = c.pendingStart := by
  unfold bump; split <;> rfl

@[simp] theorem bump_rest (c : Cursor) : c.bump.rest = c.rest.tail := by
  unfold bump; split <;> simp_all

@[simp] theorem advance_rest (k : Nat) (c : Cursor) : (c.advance k).rest = c.rest.drop k := by
  induction k generalizing c with
  | zero => rfl
  | succ k ih => simp [advance, ih, List.drop_tail]

@[simp] theorem advance_source (k : Nat) (c : Cursor) : (c.advance k).source = c.source := by
  induction k generalizing c with
  | zero => rfl
  | succ k ih => simp [advance, ih]

@[simp] theorem advance_pendingStart (k : Nat) (c : Cursor) :
    (c.advance k).pendingStart = c.pendingStart := by
  induction k generalizing c with
  | zero => rfl
  | succ k ih => simp [advance, ih]

theorem rest_length_bump_le (c : Cursor) : c.bump.rest.length ≤ c.rest.length := by
  rw [bump_rest, List.length_tail]
  exact Nat.sub_le _ _

theorem rest_length_advance_le (k : Nat) (c : Cursor) :
    (c.advance k).rest.length ≤ c.rest.length := by
  induction k generalizing c with
  | zero => exact Nat.le_refl _
  | succ k ih => exact Nat.le_trans (ih c.bump) (rest_length_bump_le c)

theorem rest_length_matchSeq_le (c : Cursor) (tests : List (Char → Bool)) :
    (c.matchSeq tests).2.rest.length ≤ c.rest.length := by
  unfold matchSeq
  split
  · exact rest_length_advance_le _ _
  · exact Nat.le_refl _

/-- A match of at least one test that succeeds consumes a character. -/
theorem rest_length_matchSeq_lt {c : Cursor} {tests : List (Char → Bool)}
    (hne : tests ≠ []) (h : (c.matchSeq tests).1 = true) :
    (c.matchSeq tests).2.rest.length < c.rest.length := by
  obtain ⟨t, ts, rfl⟩ := List.exists_cons_of_ne_nil hne
  unfold matchSeq at *
  by_cases hp : c.peek (t :: ts) = true
  · rw [if_pos hp]
    cases hr : c.rest with
    | nil => simp [peek, hr, startsWithAll] at hp
    | cons x xs =>
      simp only [advance_rest, List.length_drop, List.length_cons, hr]
      omega
  · rw [if_neg hp] at h
    simp at h

theorem rest_length_matchChar_le (c : Cursor) (x : Char) :
    (c.matchChar x).2.rest.length ≤ c.rest.length := by
  unfold matchChar
  split
  · exact rest_length_bump_le c
  · exact Nat.le_refl _

end Cursor

namespace Cursor

/-- Consumes characters while they pass a test, one match of that single test at a time, and
counts them. -/
def matchWhile (c : Cursor) (p : Char → Bool) : Nat × Cursor :=
  if h : (c.matchSeq [p]).1 then
    let r := (c.matchSeq [p]).2.matchWhile p
    (r.1 + 1, r.2)
  else (0, c)
termination_by c.rest.length
decreasing_by exact rest_length_matchSeq_lt (List.cons_ne_nil _ _) h

def matchAny (c : Cursor) : Bool × Cursor := c.matchSeq [fun _ => true]

/-- Whether no byte of the source is left. -/
def isAtEnd (c : Cursor) : Bool := decide (c.source.utf8ByteSize ≤ c.position)

/-- The text not yet consumed: the source from the byte offset on. -/
def remaining (c : Cursor) : String :=
  String.Pos.Raw.extract c.source ⟨c.position⟩ c.source.rawEndPos

/-- The span of the pending run: it ends at the index. -/
def pendingSpan (c : Cursor) : Span := ⟨c.index - c.pending, c.index, Nat.sub_le _ _⟩

/-- Hands out the pending run as a lexeme, its text cut out of the source between the two
byte offsets, and starts a new run. A fault when nothing is pending, when the two byte offsets
are not character boundaries in order, and when more characters are pending than consumed, in
this order. -/
def emit (c : Cursor) : Except Fault (Lexeme × Cursor) :=
  if c.pending = 0 then .error .emitNothing
  else if ¬(c.pendingStart ≤ c.position ∧
      String.Pos.Raw.IsValid c.source ⟨c.pendingStart⟩ ∧
      String.Pos.Raw.IsValid c.source ⟨c.position⟩) then
    .error (.cutOffBoundary c.source c.pendingStart c.position)
  else if c.index < c.pending then .error (.pendingPastIndex c.index c.pending)
  else
    .ok (⟨String.Pos.Raw.extract c.source ⟨c.pendingStart⟩ ⟨c.position⟩, c.pendingSpan⟩,
      { c with pending := 0, pendingStart := c.position })

/-! ### Matching a run and emitting -/

theorem matchSeq_single_of_cons {c : Cursor} {x : Char} {xs : List Char} (p : Char → Bool)
    (hr : c.rest = x :: xs) : c.matchSeq [p] = if p x then (true, c.bump) else (false, c) := by
  by_cases hx : p x = true
  · simp [matchSeq, peek, startsWithAll, hr, hx, advance]
  · simp [matchSeq, peek, startsWithAll, hr, hx]

theorem matchSeq_of_rest_nil {c : Cursor} {tests : List (Char → Bool)} (hr : c.rest = [])
    (hne : tests ≠ []) : c.matchSeq tests = (false, c) := by
  obtain ⟨t, ts, rfl⟩ := List.exists_cons_of_ne_nil hne
  simp [matchSeq, peek, startsWithAll, hr]

/-- The loop of `matchWhile` consumes exactly the longest run ahead that passes the test. -/
theorem matchWhile_eq (c : Cursor) (p : Char → Bool) :
    c.matchWhile p = ((c.rest.takeWhile p).length, c.advance (c.rest.takeWhile p).length) := by
  induction c using matchWhile.induct p with
  | case1 c h ih =>
    rw [matchWhile, dif_pos h]
    cases hr : c.rest with
    | nil => simp [matchSeq_of_rest_nil hr (List.cons_ne_nil p [])] at h
    | cons x xs =>
      by_cases hx : p x = true
      · have hm : c.matchSeq [p] = (true, c.bump) := by
          rw [matchSeq_single_of_cons p hr, if_pos hx]
        rw [hm] at ih ⊢
        simp only [ih, bump_rest, hr, List.tail_cons, List.takeWhile_cons, hx, if_true,
          List.length_cons]
        rfl
      · simp [matchSeq_single_of_cons p hr, hx] at h
  | case2 c h =>
    rw [matchWhile, dif_neg h]
    have hrun : c.rest.takeWhile p = [] := by
      cases hr : c.rest with
      | nil => rfl
      | cons x xs =>
        by_cases hx : p x = true
        · simp [matchSeq_single_of_cons p hr, hx] at h
        · simp [hx]
    simp [hrun, advance]

@[simp] theorem matchWhile_rest (c : Cursor) (p : Char → Bool) :
    (c.matchWhile p).2.rest = c.rest.dropWhile p := by
  rw [matchWhile_eq, advance_rest]
  generalize c.rest = cs
  induction cs with
  | nil => rfl
  | cons x xs ih => by_cases hx : p x = true <;> simp [hx, ih]

theorem rest_length_matchWhile_le (c : Cursor) (p : Char → Bool) :
    (c.matchWhile p).2.rest.length ≤ c.rest.length := by
  rw [matchWhile_rest]
  exact (List.dropWhile_suffix p).length_le

/-- An emit keeps what is ahead. -/
theorem rest_of_emit {c c' : Cursor} {l : Lexeme} (h : c.emit = .ok (l, c')) :
    c'.rest = c.rest := by
  -- three refusals, then the lexeme
  unfold emit at h
  split at h
  · cases h
  split at h
  · cases h
  split at h
  · cases h
  · cases h
    rfl

end Cursor

end Lexis
