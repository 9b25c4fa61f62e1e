/-!
How a string is written as a TOML value. A string that holds a backslash and can be written
without escapes is written as a literal string, between single quotes (three of them when it
holds a single quote or a line feed); every other string is a basic string, between double
quotes (three of them, with its line feeds as they are, when it holds a line feed), where the
double quote, the backslash and the control characters are escaped.
-/

namespace Lexis.Toml

inductive Delimiters where
  /-- Three quotes, with a line feed after the opening ones. -/
  | multiline
  /-- Three quotes on one line. -/
  | triple
  | single
  deriving DecidableEq, Repr

/-- What the choice of a string's form depends on, gathered over its characters. -/
structure StyleScan where
  delimiters : Delimiters := .single
  longestQuoteRun : Nat := 0
  quoteRun : Nat := 0
  hasBackslash : Bool := false
  literalPossible : Bool := true

def StyleScan.step (st : StyleScan) (c : Char) : StyleScan :=
  if st.literalPossible then
    let st :=
      if c = '\'' then
        { st with quoteRun := st.quoteRun + 1,
                  literalPossible := decide (st.quoteRun + 1 < 3) }
      else
        { st with longestQuoteRun := max st.longestQuoteRun st.quoteRun, quoteRun := 0 }
    if c = '\t' then st
    else if c = '\\' then { st with hasBackslash := true }
    else if c = '\n' then { st with delimiters := .multiline }
    else if c.toNat ≤ 0x1F ∨ c.toNat = 0x7F then { st with literalPossible := false }
    else st
  else if c = '\n' then { st with delimiters := .multiline }
  else st

/-- The delimiters of a string, and whether it is written as a literal string. -/
def chooseStyle (s : String) : Delimiters × Bool :=
  let st := s.toList.foldl StyleScan.step {}
  let literal := st.literalPossible && st.hasBackslash &&
    !(st.quoteRun > 0 && s.toList.getLast? = some '\'')
  if !literal then (st.delimiters, false)
  else
    let longest := max st.longestQuoteRun st.quoteRun
    if st.delimiters = .single && longest ≥ 1 then (.triple, true)
    else (st.delimiters, true)

/-- The four uppercase hexadecimal digits of a number below 65536. -/
def hex4 (n : Nat) : List Char :=
  let digit (d : Nat) : Char := if d < 10 then Char.ofNat (48 + d) else Char.ofNat (55 + d)
  [digit (n / 4096 % 16), digit (n / 256 % 16), digit (n / 16 % 16), digit (n % 16)]

def basicEscape (multiline : Bool) (c : Char) : List Char :=
  if c = '\x08' then ['\\', 'b']
  else if c = '\t' then ['\\', 't']
  else if c = '\n' then (if multiline then ['\n'] else ['\\', 'n'])
  else if c = '\x0C' then ['\\', 'f']
  else if c = '\r' then ['\\', 'r']
  else if c = '"' then ['\\', '"']
  else if c = '\\' then ['\\', '\\']
  else if c.toNat ≤ 0x1F ∨ c.toNat = 0x7F then ['\\', 'u'] ++ hex4 c.toNat
  else [c]

def writeString (s : String) : String :=
  match chooseStyle s with
  | (.multiline, true) => "'''\n" ++ s ++ "'''"
  | (.triple, true) => "'''" ++ s ++ "'''"
  | (.single, true) => "'" ++ s ++ "'"
  | (.multiline, false) =>
    "\"\"\"\n" ++ String.ofList (s.toList.flatMap (basicEscape true)) ++ "\"\"\""
  | (_, false) => "\"" ++ String.ofList (s.toList.flatMap (basicEscape false)) ++ "\""

end Lexis.Toml
