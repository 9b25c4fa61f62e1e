/-!
How alike two words are, by the Jaro similarity, and the words of a list close enough to a
mistyped one to be offered in its place.

Two characters match when they are equal and no farther apart than half the longer word, less
one; each character matches at most once, the first free one in the other word. With `m`
matches, of which `t` are out of order (counted in pairs), the similarity of words of lengths
`a` and `b` is `(m/a + m/b + (m-t)/m) / 3`. It is kept here as an exact fraction, so words are
compared without rounding. A word is offered when its similarity is above `7/10`.
-/

namespace Lexis.Cli

structure Likeness where
  num : Nat
  den : Nat
  deriving DecidableEq, Repr

namespace Likeness

def lt (x y : Likeness) : Bool := x.num * y.den < y.num * x.den

/-- Whether a similarity is above `7/10`. -/
def close (x : Likeness) : Bool := 10 * x.num > 7 * x.den

end Likeness

/-- The first free position in `lo ≤ j < hi` of `b` holding `c`. -/
def freeMatch (c : Char) (b : List Char) (used : List Bool) (lo hi : Nat) : Option Nat :=
  ((List.range hi).drop lo).find? fun j => b[j]? == some c && used[j]? == some false

/-- The matches of the characters of `a` in `b`: which characters of `a` and of `b` matched. -/
def matchMarks (a b : List Char) : List Bool × List Bool :=
  let reach := max a.length b.length / 2 - 1
  let step (acc : List Bool × List Bool × Nat) (c : Char) : List Bool × List Bool × Nat :=
    let (marks, used, i) := acc
    match freeMatch c b used (i - reach) (min b.length (i + reach + 1)) with
    | some j => (marks ++ [true], used.set j true, i + 1)
    | none => (marks ++ [false], used, i + 1)
  let (marks, used, _) := a.foldl step ([], b.map fun _ => false, 0)
  (marks, used)

def marked (w : List Char) (marks : List Bool) : List Char :=
  ((w.zip marks).filter (·.2)).map (·.1)

def jaro (a b : List Char) : Likeness :=
  if a.isEmpty && b.isEmpty then ⟨1, 1⟩
  else if a.isEmpty || b.isEmpty then ⟨0, 1⟩
  else
    let (ma, mb) := matchMarks a b
    let xs := marked a ma
    let ys := marked b mb
    let m := xs.length
    if m = 0 then ⟨0, 1⟩
    else
      let t := ((xs.zip ys).filter fun p => p.1 != p.2).length / 2
      let la := a.length
      let lb := b.length
      ⟨m * m * lb + m * m * la + (m - t) * la * lb, 3 * la * lb * m⟩

def insertByLikeness (w : Likeness × String) : List (Likeness × String) → List (Likeness × String)
  | [] => [w]
  | v :: vs => if w.1.lt v.1 then w :: v :: vs else v :: insertByLikeness w vs

/-- The words of a list close to a given one, least alike first; words equally alike keep
their order. -/
def similar (word : String) (words : List String) : List String :=
  let scored := words.map fun w => (jaro word.toList w.toList, w)
  let close := scored.filter (·.1.close)
  (close.foldl (fun acc w => insertByLikeness w acc) []).map (·.2)

/-- The word of a list most like a given one, if any is close. -/
def mostSimilar (word : String) (words : List String) : Option String :=
  (similar word words).getLast?

end Lexis.Cli
