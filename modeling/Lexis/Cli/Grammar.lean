/-!
The grammar of a command line: commands, each with its parameters and its subcommands.

A parameter is a flag (`--name` or `-n`, on when given), an option that takes one value
(`--name VALUE`, `--name=VALUE`, `-n VALUE`, `-nVALUE`) or a positional value. Besides storing
what it is given, a flag may ask for the help text or the version line. A parameter accepts any
text, a path (any text but the empty one), a boolean (`true` or `false`, for values from the
environment), or one of a list of names.

Parameters carry the order they are listed in help, and may name an environment variable that
supplies their value when the command line does not. A global parameter of a command is also
a parameter of each of its subcommands.
-/

namespace Lexis.Cli

inductive Shape where
  | flag
  | option (valueName : String)
  /-- A value given by its position; `many` takes all the plain arguments left. -/
  | positional (valueName : String) (many : Bool)
  deriving DecidableEq, Repr

inductive Action where
  | store
  | showHelp
  | showVersion
  deriving DecidableEq, Repr

inductive Accepts where
  | text
  | path
  | boolean
  | oneOf (choices : List (String × String))
  deriving DecidableEq, Repr

structure Param where
  id : String
  short : Option Char
  long : Option String
  shape : Shape
  action : Action
  accepts : Accepts
  help : String
  /-- The help shown in the long form of a help text, when it differs. -/
  longHelp : Option String
  env : Option String
  global : Bool
  /-- The place in the listing of options; ties are broken by name. -/
  order : Nat
  deriving DecidableEq, Repr

namespace Param

def takesValue (p : Param) : Bool :=
  match p.shape with
  | .option _ => true
  | _ => false

def isPositional (p : Param) : Bool :=
  match p.shape with
  | .positional _ _ => true
  | _ => false

/-- The placeholder for the value of a parameter: `<NAME>` for an option, `[NAME]` for a
positional value, and nothing for a flag. -/
def placeholder (p : Param) : String :=
  match p.shape with
  | .flag => ""
  | .option n => "<" ++ n ++ ">"
  | .positional n many => "[" ++ n ++ "]" ++ (if many then "..." else "")

/-- How messages name a parameter: `--long <VALUE>`, `-s <VALUE>` without a long name, or the
placeholder of a positional value. -/
def display (p : Param) : String :=
  match p.shape with
  | .positional _ _ => p.placeholder
  | .flag =>
    match p.long, p.short with
    | some l, _ => "--" ++ l
    | none, some s => "-" ++ s.toString
    | none, none => ""
  | .option _ =>
    (match p.long, p.short with
      | some l, _ => "--" ++ l
      | none, some s => "-" ++ s.toString
      | none, none => "") ++ " " ++ p.placeholder

/-- The names a help text lists for a parameter: `-s, --long <VALUE>`, with four blanks in
place of a missing short name. -/
def names (p : Param) : String :=
  match p.shape with
  | .positional _ _ => p.placeholder
  | _ =>
    let short := match p.short with
      | some s => "-" ++ s.toString
      | none => if p.long.isSome then "    " else ""
    let long := match p.long with
      | some l => (if p.short.isSome then ", " else "") ++ "--" ++ l
      | none => ""
    let value := if p.takesValue then " " ++ p.placeholder else ""
    short ++ long ++ value

def choiceNames (p : Param) : List String :=
  match p.accepts with
  | .oneOf cs => cs.map (·.1)
  | .boolean => ["true", "false"]
  | _ => []

end Param

structure Command where
  name : String
  /-- The words that run it, as usage lines show them. -/
  path : String
  /-- The name its version line shows. -/
  displayName : String
  about : String
  longAbout : Option String
  version : Option String
  /-- Its parameters: its own in order, then those it inherits, then help and version. -/
  params : List Param
  /-- The place in the listing of commands; ties are broken by name. -/
  order : Nat
  subcommands : List Command

namespace Command

def findLong (c : Command) (name : String) : Option Param :=
  c.params.find? fun p => !p.isPositional && p.long == some name

def findShort (c : Command) (ch : Char) : Option Param :=
  c.params.find? fun p => !p.isPositional && p.short == some ch

def positionals (c : Command) : List Param := c.params.filter (·.isPositional)

def options (c : Command) : List Param := c.params.filter (!·.isPositional)

def longNames (c : Command) : List String := c.options.filterMap (·.long)

def hasHelpFlag (c : Command) : Bool := c.params.any (·.action == .showHelp)

def findSub (c : Command) (name : String) : Option Command :=
  c.subcommands.find? (·.name == name)

def subNames (c : Command) : List String := c.subcommands.map (·.name)

end Command

end Lexis.Cli
