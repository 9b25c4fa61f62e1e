import Lexis.Cli.Grammar
import Lexis.Text.Quoted

/-!
The texts a command line prints about itself: the usage line, the help text and the version
line.

A help text is the command's description, its usage line, and then its sections: the
subcommands, the positional values and the options. In the short form each entry is one line,
its description aligned in a column after the longest name of its section, followed by notes
on the environment variable that may supply it (with that variable's present value) and on the
values it accepts. A command whose texts say more at length also has a long form: the long
description, every entry's text on lines of its own below its names with a blank line between
entries, and the accepted values listed one per line with their descriptions. An entry's text
also moves below its names when its section's names take more than two fifths of a line of
100 columns and the text would not fit beside them.
-/

namespace Lexis.Cli

open Text

def blanks (n : Nat) : String := String.ofList (List.replicate n ' ')

def indentLines (n : Nat) (s : String) : String := s.replace "\n" ("\n" ++ blanks n)

def trimEnd (s : String) : String := String.ofList (s.toList.reverse.dropWhile isWhiteSpace).reverse

def lineWidth : Nat := 100

/-- Whether an entry's text goes below its names: when the names' column takes more than two
fifths of the line and the text does not fit in the rest. -/
def pushedBelow (taken textWidth : Nat) : Bool :=
  lineWidth ≥ taken && 5 * taken > 2 * lineWidth && textWidth > lineWidth - taken

namespace Command

/-- The usage line of a command: its words, `[OPTIONS]` when it has options other than help and
version, its positional values, and `[COMMAND]` when it has subcommands. -/
def usage (c : Command) : String :=
  let options := c.options.any (·.action == .store)
  c.path ++ (if options then " [OPTIONS]" else "") ++
    String.join (c.positionals.map (" " ++ ·.placeholder)) ++
    (if c.subcommands.isEmpty then "" else " [COMMAND]")

def versionLine (c : Command) : String := c.displayName ++ " " ++ (c.version.getD "") ++ "\n"

def describesChoices (p : Param) : Bool :=
  match p.accepts with
  | .oneOf cs => p.takesValue && cs.any (!·.2.isEmpty)
  | _ => false

def hasLongHelp (c : Command) : Bool :=
  c.longAbout.isSome ||
    c.params.any fun p => p.action == .store && (p.longHelp.isSome || describesChoices p)

end Command

namespace Param

/-- The key that orders options in a help text: their place, then their short name (lower
case first, each capital after its small letter), else their long name. -/
def sortKey (p : Param) : Nat × String :=
  let name := match p.short, p.long with
    | some s, _ => s.toLower.toString ++ (if s.isLower then "0" else "1")
    | none, some l => l
    | none, none => "\x7b" ++ p.id
  (p.order, name)

/-- The notes after an entry's text: the environment variable and the accepted values. The
accepted values are noted here unless the long form lists them. -/
def notes (p : Param) (longForm : Bool) (env : List (String × String)) : List String :=
  let envNote := match p.env with
    | some name => ["[env: " ++ name ++ "=" ++ ((env.lookup name).getD "") ++ "]"]
    | none => []
  let choices := match p.accepts with
    | .oneOf cs => if p.takesValue then cs.map (fun c => shown c.1) else []
    | _ => []
  let choiceNote :=
    if choices.isEmpty || (longForm && Command.describesChoices p) then []
    else ["[possible values: " ++ ", ".intercalate choices ++ "]"]
  envNote ++ choiceNote

def width (p : Param) : Nat := if p.isPositional then p.placeholder.length else p.display.length + 4

def entryText (p : Param) (longForm : Bool) (env : List (String × String)) : String :=
  let about := if longForm then p.longHelp.getD p.help else p.help
  let notes := (if longForm then "\n" else " ").intercalate (p.notes longForm env)
  if notes.isEmpty then about
  else if about.isEmpty then notes
  else about ++ (if longForm then "\n\n" else " ") ++ notes

/-- The list of accepted values with their descriptions, each line indented by `n`. -/
def choiceList (p : Param) (n : Nat) : String :=
  match p.accepts with
  | .oneOf cs =>
    let longest := (cs.map (·.1.length)).foldl max 0
    "Possible values:" ++ String.join (cs.map fun c =>
      "\n" ++ blanks n ++ "- " ++ c.1 ++
        (if c.2.isEmpty then "" else ": " ++ blanks (longest - c.1.length) ++ c.2))
  | _ => ""

/-- An entry of a help text: its names and its text, beside or below them. -/
def entry (p : Param) (longForm below : Bool) (longest : Nat) (env : List (String × String)) :
    String :=
  let text := p.entryText longForm env
  let column := longest + 4
  let head := "  " ++ p.names
  let (lead, indent) :=
    if longForm || below then ("\n" ++ blanks 10, 10)
    else
      let pad := if p.isPositional then longest + 2 - p.width
        else longest + (if p.long.isSome then 2 else 6) - p.width
      (blanks pad, column)
  let body := indentLines indent text
  let choices :=
    if longForm && Command.describesChoices p then
      (if body.isEmpty then "" else "\n\n" ++ blanks indent) ++ p.choiceList indent
    else ""
  head ++ lead ++ body ++ choices

end Param

def sortBy {α : Type} (key : α → Nat × String) (xs : List α) : List α :=
  let before (x y : α) : Bool :=
    (key x).1 < (key y).1 || ((key x).1 == (key y).1 && decide ((key x).2 < (key y).2))
  let rec insert (x : α) : List α → List α
    | [] => [x]
    | y :: ys => if before x y then x :: y :: ys else y :: insert x ys
  xs.foldl (fun acc x => insert x acc) []

def paramSection (ps : List Param) (longForm : Bool) (env : List (String × String)) : String :=
  let longest := (ps.map Param.width).foldl max 2
  let below := longForm || ps.any fun p =>
    pushedBelow (longest + 4) (p.help.length + (" ".intercalate (p.notes false env)).length)
  ("\n" ++ (if below && longForm then "\n" else "")).intercalate
    (ps.map fun p => p.entry longForm below longest env)

def commandSection (cs : List Command) (longForm : Bool) : String :=
  let longest := (cs.map (·.name.length)).foldl max 2
  let below := longForm || cs.any fun c => pushedBelow (longest + 4) c.about.length
  "\n".intercalate (cs.map fun c =>
    "  " ++ c.name ++
      (if below then "\n" ++ blanks 10 ++ indentLines 10 c.about
       else blanks (longest + 2 - c.name.length) ++ indentLines (longest + 8) c.about))

namespace Command

/-- The help text of a command, in its long form if asked and it has one. -/
def helpText (c : Command) (long : Bool) (env : List (String × String)) : String :=
  let longForm := long && c.hasLongHelp
  let about := if longForm then c.longAbout.getD c.about else c.about
  let commands := sortBy (fun s => (s.order, s.name)) c.subcommands
  let positionals := c.positionals
  let options := sortBy Param.sortKey c.options
  let sections :=
    (if commands.isEmpty then [] else ["Commands:\n" ++ commandSection commands longForm]) ++
    (if positionals.isEmpty then [] else
      ["Arguments:\n" ++ paramSection positionals longForm env]) ++
    (if options.isEmpty then [] else ["Options:\n" ++ paramSection options longForm env])
  trimEnd (about ++ "\n\nUsage: " ++ c.usage ++ "\n\n" ++ "\n\n".intercalate sections) ++ "\n"

end Command

end Lexis.Cli
