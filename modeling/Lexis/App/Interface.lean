import Lexis.Cli.Help

/-!
The command line of `plct`: the global flags `--verbose` (`-v`), `--config <CONFIG>` (`-c`)
and `--no-color`, each of which an environment variable may also set, and the subcommands
`repl` (the default), `lex` and `config`, with `help` for the help texts. Every command but
`help` takes `--help` (`-h`) and `--version` (`-V`).
-/

namespace Lexis.App

open Cli

def version : String := "0.1.0"

/-- A parameter that stores what it is given, listed in the given place. -/
def param (id : String) (short : Option Char) (long : Option String) (shape : Shape)
    (accepts : Accepts) (help : String) (order : Nat) : Param :=
  ⟨id, short, long, shape, .store, accepts, help, none, none, false, order⟩

/-- The global flags, which a variable of the environment may also set. -/
def globals : List Param :=
  [ { param "verbose" (some 'v') (some "verbose") .flag .boolean "Enable verbose output" 0 with
      env := some "PLCT_VERBOSE", global := true },
    { param "config" (some 'c') (some "config") (.option "CONFIG") .path
        "Path to configuration file" 1 with
      env := some "PLCT_CONFIG", global := true },
    { param "no_color" none (some "no-color") .flag .boolean "Disable color output" 2 with
      env := some "PLCT_NO_COLOR", global := true } ]

/-- The help flag of a command, which says so when the command's help has a long form. -/
def helpFlag (longForm : Bool) : Param :=
  if longForm then
    ⟨"help", some 'h', some "help", .flag, .showHelp, .boolean,
      "Print help (see more with '--help')", some "Print help (see a summary with '-h')", none,
      false, 999⟩
  else ⟨"help", some 'h', some "help", .flag, .showHelp, .boolean, "Print help", none, none,
      false, 999⟩

def versionFlag : Param :=
  ⟨"version", some 'V', some "version", .flag, .showVersion, .boolean, "Print version", none, none,
    false, 999⟩

/-- A subcommand of `plct` with its own parameters, the global flags and help and version. -/
def subcommand (name about : String) (longAbout : Option String) (own : List Param)
    (order : Nat) : Command :=
  let bare : Command :=
    ⟨name, "plct " ++ name, "plct-" ++ name, about, longAbout, some version, own ++ globals, order,
      []⟩
  { bare with params := own ++ globals ++ [helpFlag bare.hasLongHelp, versionFlag] }

def replCommand : Command :=
  subcommand "repl" "Start the interactive lexer REPL (default)"
    (some ("Start the interactive lexer REPL (default)\n\nEach line is lexed and its tokens " ++
      "printed. Enter an empty line to start multi-line input, and another empty line to " ++
      "submit it."))
    [ param "prompt" (some 'p') (some "prompt") (.option "PROMPT") .text
        "Prompt printed before each input (default: from config)" 0,
      param "show_spans" none (some "show-spans") .flag .boolean
        "Print each token's span after it" 1 ]
    3

def formats : List (String × String) :=
  [ ("text", "One `Token[type=..., literal=...]` line per token"),
    ("json", "A JSON array of `\x7bkind, literal, span\x7d` objects") ]

def lexCommand : Command :=
  subcommand "lex" "Lex a file and print its tokens"
    (some ("Lex a file and print its tokens\n\nReads standard input when FILE is omitted or " ++
      "`-`. Exits with status 1 on a lexical error."))
    [ param "input" none none (.positional "FILE" false) .path "Source file to lex" 0,
      param "format" (some 'F') (some "format") (.option "FORMAT") (.oneOf formats)
        "Output format (default: from config)" 0,
      param "show_spans" none (some "show-spans") .flag .boolean
        "Print each token's span after it (text format)" 1 ]
    4

def configCommand : Command :=
  subcommand "config" "Show or write the effective configuration" none
    [ param "write" (some 'w') (some "write") (.option "PATH") .path
        "Write the configuration to this path instead of printing it" 0 ]
    5

def helpCommand : Command :=
  ⟨"help", "plct help", "plct-help", "Print this message or the help of the given subcommand(s)",
    none, none,
    [param "subcommand" none none (.positional "COMMAND" true) .text
      "Print help for the subcommand(s)" 0],
    999, []⟩

def cli : Command :=
  ⟨"plct", "plct", "plct", "Lex PLC source text", none, some version,
    globals ++ [helpFlag false, versionFlag], 0,
    [replCommand, lexCommand, configCommand, helpCommand]⟩

end Lexis.App
