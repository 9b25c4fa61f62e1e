import Lexis.Listing

/-!
An interactive session over an input text. Before each read the prompt is written. A line that
is not empty is lexed on its own. An empty line opens a block: a notice is written, and the
lines after it, each with a line feed, are collected up to the next empty line or the end of
the input, and then lexed together. A lexed input prints its token list,
`List<Token>[size=N]` (with a colon when N > 0) and a ` - ` line per token, or its lexical
error, `LexError: …`; the session goes on after an error. At the end of the input the prompt
stands alone at the end of the output.

The input comes as lines as they are read: each line runs up to and including a line feed
(the last may have none). A line that is not valid UTF-8 ends the session at that read.

Between two reads the session is at a stage: at the prompt, or inside a block. One step reads
a line at a stage (`Stage.take`); the run over a list of lines strings the steps together, and
a program reading a terminal takes the same steps one line at a time.
-/

namespace Lexis

namespace Session

def blockNotice : String := "Multiline input - enter empty line to submit:\n"

/-- A read line without its line feed and without one carriage return before the line feed; a
last line without a line feed is kept whole. -/
def chomp (raw : String) : String :=
  let cs := raw.toList
  if cs.getLast? = some '\n' then
    let cs := cs.dropLast
    String.ofList (if cs.getLast? = some '\r' then cs.dropLast else cs)
  else raw

def blockText (lines : List String) : String := String.join (lines.map (· ++ "\n"))

def evaluate (showSpans : Bool) (source : String) : Except Fault String :=
  (lex source).map fun
    | .ok ts =>
      "List<Token>[size=" ++ toString ts.length ++ "]" ++ (if ts.isEmpty then "" else ":") ++
        "\n" ++ String.join (ts.map fun t => " - " ++ t.line showSpans)
    | .error e => "LexError: " ++ e.display ++ "\n"

/-- What a session wrote, and whether it stopped at a line it could not read. -/
structure Transcript where
  output : String
  unreadable : Bool
  deriving DecidableEq, Repr

def Transcript.after (s : String) (t : Transcript) : Transcript := ⟨s ++ t.output, t.unreadable⟩

/-- Where a session stands between two reads: at the prompt, or inside a block with the lines
collected so far. -/
inductive Stage where
  | prompt
  | block (lines : List String)
  deriving DecidableEq, Repr

namespace Stage

/-- What is written before the next read: the prompt, unless a block is open. -/
def preface (prompt : String) : Stage → String
  | .prompt => prompt
  | .block _ => ""

def take (showSpans : Bool) : Stage → String → Except Fault (String × Stage)
  | .prompt, raw =>
    let line := chomp raw
    if line.isEmpty then .ok (blockNotice, .block [])
    else (evaluate showSpans line).map (·, .prompt)
  | .block lines, raw =>
    let line := chomp raw
    if line.isEmpty then (evaluate showSpans (blockText lines)).map (·, .prompt)
    else .ok ("", .block (lines ++ [line]))

/-- What the end of the input writes at a stage: an open block is lexed, and the session reads
once more from the prompt; at the prompt the session ends. -/
def close (showSpans : Bool) : Stage → Except Fault (Option String)
  | .prompt => .ok none
  | .block lines => (evaluate showSpans (blockText lines)).map some

end Stage

/-- The session from a stage over the lines still to read; `none` stands for a line that is
not valid UTF-8. -/
def run (prompt : String) (showSpans : Bool) : Stage → List (Option String) → Except Fault Transcript
  | st, [] =>
    match st.close showSpans with
    | .error f => .error f
    | .ok none => .ok ⟨st.preface prompt, false⟩
    | .ok (some out) => .ok ⟨out ++ prompt, false⟩
  | st, none :: _ => .ok ⟨st.preface prompt, true⟩
  | st, some raw :: rest => do
    let (out, st') ← st.take showSpans raw
    let t ← run prompt showSpans st' rest
    return t.after (st.preface prompt ++ out)

/-- The lines of a text as they are read: each up to and including a line feed. -/
def readLines (s : String) : List String :=
  let pieces := (s.toList.splitOn '\n').map String.ofList
  let ended := pieces.dropLast.map (· ++ "\n")
  match pieces.getLast? with
  | some "" | none => ended
  | some last => ended ++ [last]

end Session

end Lexis
