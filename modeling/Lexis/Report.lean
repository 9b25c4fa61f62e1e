import Lexis.LineIndex

/-!
The report of a lexical error: its message with line and column, then the line of the source
where it stands, framed by a gutter as wide as the line number, and a caret under the column.

```
Unterminated string literal (line 2, column 9)
  |
2 | let s = "abc
  |         ^
```
-/

namespace Lexis

def blanks (n : Nat) : String := String.ofList (List.replicate n ' ')

/-- A caret at the end of a field `width` characters wide. -/
def caretAt (width : Nat) : String := blanks (width - 1) ++ "^"

/-- The report of an error in a source text. -/
def LexError.report (e : LexError) (source : String) : String :=
  let idx := LineIndex.ofString source
  let header := e.render idx
  let (line, column) := idx.lineCol e.offset
  match idx.line? line with
  | none => header
  | some text =>
    let number := toString line
    let gutter := blanks number.length
    header ++ "\n" ++ gutter ++ " |\n" ++ number ++ " | " ++ text ++ "\n" ++ gutter ++ " | " ++
      caretAt column

end Lexis
