import Lexis.App.Interface
import Lexis.Cli.Parse
import Lexis.Host
import Lexis.Session
import Lexis.Settings

/-!
A run of `plct` on a system: read the command line, load the settings, run the command, and
report how it ended.

Settings come from the file that `--config` or `PLCT_CONFIG` names, which must exist, or else
from the first file that exists of `plct.toml` in the working directory,
`.config/plct/plct.toml` in the home directory and `plct/plct.toml` in the configuration
directory; without one the defaults hold.

`repl`, the default, runs a session on standard input, with the prompt of the command line or
of the settings, showing spans when either asks for them. `lex` lists the tokens of a file, or
of standard input when there is no file or it is `-`, in the format of the command line or of
the settings. `config` prints the settings as TOML, or writes them to a file, making the
directories above it first.

A help text or the version line is printed on standard output and the run succeeds; a
mistake on the command line is printed on standard error with status 2. A failure afterwards is
printed as `error: …` on standard error, with status 1 for a lexical error and 2 for the rest.
-/

namespace Lexis.App

inductive Failure where
  | config (message : String)
  | readSource (path : String) (error : IoError)
  | io (error : IoError)
  | lex (report : String)
  | fault (f : Fault)
  deriving DecidableEq, Repr

namespace Failure

/-- What a failure says after `error: `. -/
def message : Failure → String
  | .config m => "Configuration error: " ++ m
  | .readSource p e => "Failed to read " ++ p ++ ": " ++ e.message
  | .io e => "IO error: " ++ e.message
  | .lex report => report
  | .fault f => f.message

def status : Failure → Nat
  | .lex _ => 1
  | .fault _ => 101
  | _ => 2

end Failure

variable {m : Type → Type} [Monad m]

def loadFrom (host : Host m) (path : String) : m (Except Failure Settings) := do
  if !(← host.present path) then
    return .error (.config ("Configuration file not found: " ++ path))
  match ← host.readFile path with
  | .error e => return .error (.io e)
  | .ok bytes =>
    match utf8? bytes with
    | none => return .error (.io .invalidUtf8)
    | some text =>
      match Settings.ofToml text with
      | .ok s => return .ok s
      | .error _ => return .error (.config ("Failed to parse " ++ path))

/-- The files searched for settings, in order. -/
def searchPaths (host : Host m) : m (List String) := do
  let home ← host.homeDir
  let conf ← host.configDir
  return ["plct.toml"] ++
    (home.map fun h => Path.join (Path.join (Path.join h ".config") "plct") "plct.toml").toList ++
    (conf.map fun d => Path.join (Path.join d "plct") "plct.toml").toList

/-- The first of some paths where something exists. -/
def firstPresent (host : Host m) : List String → m (Option String)
  | [] => pure none
  | p :: ps => do
    if ← host.present p then return some p
    firstPresent host ps

/-- The settings of a run: from the file named, else from the first file found, else the
defaults. -/
def loadSettings (host : Host m) (named : Option String) : m (Except Failure Settings) := do
  match named with
  | some p => loadFrom host p
  | none =>
    match ← firstPresent host (← searchPaths host) with
    | some p => loadFrom host p
    | none => return .ok {}

/-- A session on standard input, for at most `rounds` reads. -/
def session (host : Host m) (prompt : String) (showSpans : Bool) :
    Nat → Session.Stage → m (Except Failure Unit)
  | 0, _ => pure (.ok ())
  | rounds + 1, st => do
    host.print (st.preface prompt)
    match ← host.readLine with
    | none =>
      match st.close showSpans with
      | .error f => return .error (.fault f)
      | .ok none => return .ok ()
      | .ok (some out) =>
        host.print out
        session host prompt showSpans rounds .prompt
    | some bytes =>
      match utf8? bytes with
      | none => return .error (.io .invalidUtf8)
      | some raw =>
        match st.take showSpans raw with
        | .error f => return .error (.fault f)
        | .ok (out, next) =>
          host.print out
          session host prompt showSpans rounds next

/-- The source text to lex: a file, or standard input when there is none or it is `-`. -/
def readSource (host : Host m) (input : Option String) : m (Except Failure String) := do
  match input with
  | some path =>
    if path == "-" then readInput
    else
      match ← host.readFile path with
      | .error e => return .error (.readSource path e)
      | .ok bytes =>
        match utf8? bytes with
        | some text => return .ok text
        | none => return .error (.readSource path .invalidUtf8)
  | none => readInput
where
  readInput : m (Except Failure String) := do
    match utf8? (← host.readInput) with
    | some text => return .ok text
    | none => return .error (.io .invalidUtf8)

def lexSource (host : Host m) (input : Option String) (format : ListingFormat)
    (showSpans : Bool) : m (Except Failure Unit) := do
  match ← readSource host input with
  | .error f => return .error f
  | .ok text =>
    match listSource format showSpans text with
    | .error f => return .error (.fault f)
    | .ok (.error report) => return .error (.lex report)
    | .ok (.ok listing) =>
      host.print listing
      return .ok ()

/-- Prints the settings, or writes them to a file after making the directories above it. -/
def showSettings (host : Host m) (target : Option String) (s : Settings) :
    m (Except Failure Unit) := do
  match target with
  | none =>
    host.print s.toToml
    return .ok ()
  | some path =>
    if let some dir := Path.parent path then
      if let .error e ← host.makeDirs dir then return .error (.io e)
    match ← host.writeFile path s.toToml with
    | .error e => return .error (.io e)
    | .ok () => return .ok ()

def execute (host : Host m) (rounds : Nat) (p : Cli.Parsed) : m (Except Failure Unit) := do
  match ← loadSettings host (p.value "config") with
  | .error f => return .error f
  | .ok s =>
    match p.sub.map (·.1) with
    | some "lex" =>
      let format := ((p.value "format").bind ListingFormat.ofName?).getD s.format
      lexSource host (p.value "input") format (p.flag "show_spans")
    | some "config" => showSettings host (p.value "write") s
    | _ =>
      session host ((p.value "prompt").getD s.prompt) (p.flag "show_spans" || s.showSpans)
        rounds .prompt

def envVariables : List String := ["PLCT_VERBOSE", "PLCT_CONFIG", "PLCT_NO_COLOR"]

def environment (host : Host m) : List String → m (List (String × String))
  | [] => pure []
  | n :: ns => do
    let rest ← environment host ns
    match ← host.var n with
    | some v => return (n, v) :: rest
    | none => return rest

/-- Runs `plct` with some arguments, reading at most `rounds` lines in a session, and gives
the status it exits with. -/
def run (host : Host m) (rounds : Nat) (args : List String) : m Nat := do
  let env ← environment host envVariables
  match Cli.parse cli env args with
  | .error (.help text) =>
    host.print text
    return 0
  | .error (.version text) =>
    host.print text
    return 0
  | .error (.mistake e helpFlag) =>
    host.printError (e.message helpFlag)
    return 2
  | .ok parsed =>
    match ← execute host rounds parsed with
    | .ok () => return 0
    | .error (.fault f) =>
      host.printError (f.message ++ "\n")
      return 101
    | .error f =>
      host.printError ("error: " ++ f.message ++ "\n")
      return f.status

end Lexis.App
