import Lexis.LexError

/-!
Line index of a source text: where each line starts, as a character offset together with the
byte offset of the same character. The first line starts at 0 and each line feed starts a new
line right after it; a carriage return is part of its line. `lineCol` turns a character offset
into a 1-based line and column by a halving search of the starts; an offset past the end lands
on the last line, and the column keeps counting. `line?` cuts the text of a line out of the
source between two byte offsets, without its line feed and without one carriage return before
it.
-/

namespace Lexis

/-- The character and byte offsets just after each line feed of a text whose first character
stands at character offset `i` and byte offset `b`. -/
def lineFeedEnds (i b : Nat) : List Char → List (Nat × Nat)
  | [] => []
  | c :: cs =>
    if c = '\n' then (i + 1, b + 1) :: lineFeedEnds (i + 1) (b + c.utf8Size) cs
    else lineFeedEnds (i + 1) (b + c.utf8Size) cs

/-- The halving search of a table between positions `lo` and `hi`, by a comparison that says
whether an entry lies below (`lt`), at (`eq`) or above (`gt`) what is sought. -/
def searchWithin {α : Type} (a : Array α) (cmp : α → Ordering) (lo hi : Nat) (h : hi ≤ a.size) :
    Except Nat Nat :=
  if hlt : lo < hi then
    let mid := lo + (hi - lo) / 2
    have hmid : mid < a.size := by omega
    match cmp a[mid] with
    | .lt => searchWithin a cmp (mid + 1) hi h
    | .gt => searchWithin a cmp lo mid (by omega)
    | .eq => .ok mid
  else .error lo
termination_by hi - lo

/-- The halving search of a sorted table: `.ok i` when the entry at `i` is the one sought, and
otherwise `.error j`, where `j` is the position at which it would be inserted. -/
def binarySearchBy {α : Type} (a : Array α) (cmp : α → Ordering) : Except Nat Nat :=
  searchWithin a cmp 0 a.size (Nat.le_refl _)

/-- A source text with the character and byte offsets where its lines start. -/
structure LineIndex where
  /-- The text. -/
  source : String
  /-- The character and byte offsets of the first character of every line, in increasing
  order; the first is `(0, 0)`. -/
  starts : Array (Nat × Nat)

namespace LineIndex

/-- The line index of a text. -/
def ofString (s : String) : LineIndex :=
  ⟨s, ((0, 0) :: lineFeedEnds 0 0 s.toList).toArray⟩

/-- The number of lines: one more than the number of line feeds. -/
def lineCount (idx : LineIndex) : Nat := idx.starts.size

/-- The 1-based line and column of a character offset. The search finds the line that starts
at the offset, or the place where such a line would be inserted, which is one past the line
the offset lies on. -/
def lineCol (idx : LineIndex) (offset : Nat) : Nat × Nat :=
  let line :=
    match binarySearchBy idx.starts (fun p => compare p.1 offset) with
    | .ok line => line
    | .error insertPoint => insertPoint - 1
  (line + 1, offset - (idx.starts.getD line (0, 0)).1 + 1)

/-- A text without one carriage return at its end. -/
def dropCarriageReturn (cs : List Char) : List Char :=
  if cs.getLast? = some '\r' then cs.dropLast else cs

/-- The bytes of a 1-based line in the source: from its first byte up to its line feed, or up
to the end of the source on the last line; `none` for line 0 and for lines past the last. -/
def lineBytes? (idx : LineIndex) : Nat → Option (Nat × Nat)
  | 0 => none
  | n + 1 => idx.starts[n]?.map fun p =>
    (p.2, (idx.starts[n + 1]?.map fun q => q.2 - 1).getD idx.source.utf8ByteSize)

/-- The text of a 1-based line, without its line break; `none` for line 0 and for lines past
the last. -/
def line? (idx : LineIndex) (n : Nat) : Option String :=
  (idx.lineBytes? n).map fun r =>
    String.ofList (dropCarriageReturn (String.Pos.Raw.extract idx.source ⟨r.1⟩ ⟨r.2⟩).toList)

end LineIndex

/-- An error with the line and column of its offset, for a reader. -/
def LexError.render (e : LexError) (idx : LineIndex) : String :=
  let (line, column) := idx.lineCol e.offset
  e.message ++ " (line " ++ toString line ++ ", column " ++ toString column ++ ")"

end Lexis
