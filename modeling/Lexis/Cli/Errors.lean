import Lexis.Cli.Help

/-!
The ways a command line can be wrong, and the messages that say so.

A message is `error: ` and one sentence, then tips (a similar name that exists, or how to pass
a word that looks like a flag as a value), then the usage line of the command being read, and
last a pointer to `--help` when the command has it. A value that is refused is shown quoted
when it holds white space, and is followed by the list of values that would do.
-/

namespace Lexis.Cli

open Text

inductive UsageError where
  /-- A word that no parameter takes; maybe a similar long name here, or a long name of a
  subcommand that comes later, and whether it could be passed after `--` as a value. -/
  | unexpectedArgument (arg : String) (similar : Option String)
      (inSubcommand : Option (String × String)) (asValue : Bool) (usage : String)
  /-- A word in the place of a subcommand that names none; the similar names that exist. -/
  | unrecognizedSubcommand (name : String) (similar : List String) (usage : String)
  | escapedSubcommand (name : String) (usage : String)
  | unexpectedValue (value : String) (arg : String) (usage : String)
  | repeated (arg : String) (usage : String)
  /-- A value a parameter does not accept; the empty value reads as a missing one. -/
  | invalidValue (value : String) (arg : String) (choices : List String)
      (similar : Option String)
  deriving DecidableEq, Repr

namespace UsageError

def tip (s : String) : String := "\n  tip: " ++ s

/-- The tip naming a similar word of some sort. -/
def similarTip (sort : String) (words : List String) : String :=
  match words with
  | [w] => tip ("a similar " ++ sort ++ " exists: '" ++ w ++ "'")
  | ws => tip ("some similar " ++ sort ++ "s exist: " ++
      ", ".intercalate (ws.map fun w => "'" ++ w ++ "'"))

def usagePart (usage : String) : String := "\n\nUsage: " ++ usage

/-- The sentence of a message and what follows it up to the pointer to help. -/
def body : UsageError → String
  | unexpectedArgument arg similar inSub asValue usage =>
    let first := match similar with
      | some s => "\n" ++ similarTip "argument" [s]
      | none => ""
    let others :=
      (if asValue then [tip ("to pass '" ++ arg ++ "' as a value, use '-- " ++ arg ++ "'")]
        else []) ++
      (match inSub with
        | some (sub, flag) => [tip ("'" ++ sub ++ " " ++ flag ++ "' exists")]
        | none => [])
    "unexpected argument '" ++ arg ++ "' found" ++ first ++
      (if others.isEmpty || similar.isSome then "" else "\n") ++ String.join others ++
      usagePart usage
  | unrecognizedSubcommand name similar usage =>
    "unrecognized subcommand '" ++ name ++ "'" ++
      (if similar.isEmpty then "" else "\n" ++ similarTip "subcommand" similar) ++
      usagePart usage
  | escapedSubcommand name usage =>
    "unexpected argument '--' found\n" ++
      tip ("subcommand '" ++ name ++ "' exists; to use it, remove the '--' before it") ++
      usagePart usage
  | unexpectedValue value arg usage =>
    "unexpected value '" ++ value ++ "' for '" ++ arg ++ "' found; no more were expected" ++
      usagePart usage
  | repeated arg usage =>
    "the argument '" ++ arg ++ "' cannot be used multiple times" ++ usagePart usage
  | invalidValue value arg choices similar =>
    (if value.isEmpty then "a value is required for '" ++ arg ++ "' but none was supplied"
      else "invalid value '" ++ shown value ++ "' for '" ++ arg ++ "'") ++
      (if choices.isEmpty then ""
        else "\n  [possible values: " ++ ", ".intercalate (choices.map shown) ++ "]") ++
      (match similar with
        | some s => "\n" ++ similarTip "value" [s]
        | none => "")

def message (e : UsageError) (helpFlag : Bool) : String :=
  "error: " ++ e.body ++
    (if helpFlag then "\n\nFor more information, try '--help'.\n" else "\n")

end UsageError

end Lexis.Cli
