import Lexis.Cli.Errors
import Lexis.Cli.Similar

/-!
Reading a command line against a command's grammar.

Words are read from left to right. Until a word `--`, which makes every later word a
positional value, a word is in turn: the name of a subcommand, which reads all the words after
it; `--name` or `--name=VALUE`; a cluster of short flags `-abc`, where a short option takes the
rest of the cluster (less a leading `=`) as its value; the value of an option waiting for one;
or the next positional value. `help` in the place of a subcommand prints the long help text of
the command that the words after it name.

A parameter's value is checked when the next parameter is met, or at the end of the words of
its command; a mistake found while reading a word that names nothing wins over a value not yet
checked. Help and version flags stop the reading at once. When a command's words are read, its
parameters that were not given take their values from the environment, checked the same way;
a subcommand's words are read, and its environment consulted, before those of the command
above it.
-/

namespace Lexis.Cli

inductive Source where
  | environment
  | commandLine
  deriving DecidableEq, Repr

structure Given where
  param : String
  value : String
  source : Source
  deriving DecidableEq, Repr

/-- What ends the reading of a command line early: a request for a help text or a version
line, or a mistake, with whether the command in question takes `--help`. -/
inductive Stop where
  | help (text : String)
  | version (text : String)
  | mistake (error : UsageError) (helpFlag : Bool)
  deriving DecidableEq, Repr

structure Parsed where
  given : List Given
  sub : Option (String × List Given)
  deriving DecidableEq, Repr

/-- A parameter named on the command line that waits for its value to be checked. -/
structure Pending where
  param : Param
  values : List String
  long : Bool
  deriving DecidableEq, Repr

/-- The state of reading the words of one command. -/
structure Reading where
  given : List Given
  pending : Option Pending
  position : Nat
  escaped : Bool
  deriving DecidableEq, Repr

namespace Reading

def empty : Reading := ⟨[], none, 0, false⟩

def awaitsValue (r : Reading) : Bool :=
  match r.pending with
  | some p => p.param.takesValue && p.values.isEmpty
  | none => false

end Reading

def Command.mistake (c : Command) (e : UsageError) : Stop := .mistake e c.hasHelpFlag

def Param.accept (p : Param) (v : String) : Except UsageError String :=
  match p.accepts with
  | .text => .ok v
  | .path => if v.isEmpty then .error (.invalidValue "" p.display [] none) else .ok v
  | .boolean =>
    if v == "true" || v == "false" then .ok v
    else .error (.invalidValue v p.display p.choiceNames (mostSimilar v p.choiceNames))
  | .oneOf cs =>
    if cs.any (·.1 == v) then .ok v
    else .error (.invalidValue v p.display p.choiceNames (mostSimilar v p.choiceNames))

namespace Reading

/-- Gives a parameter its values: help and version flags stop the reading; an option named on
the command line needs a value; a parameter may be given once; its value must be accepted. A
flag named on the command line is given `true`. -/
def store (env : List (String × String)) (c : Command) (r : Reading) (p : Param)
    (values : List String) (source : Source) (long : Bool) : Except Stop Reading :=
  match p.action with
  | .showHelp => .error (.help (c.helpText long env))
  | .showVersion => .error (.version c.versionLine)
  | .store =>
    if source == .commandLine && p.shape != .flag && values.isEmpty then
      .error (c.mistake (.invalidValue "" p.display p.choiceNames none))
    else if r.given.any (·.param == p.id) then
      .error (c.mistake (.repeated p.display c.usage))
    else
      match p.accept (values.headD "true") with
      | .error e => .error (c.mistake e)
      | .ok v => .ok { r with given := r.given ++ [⟨p.id, v, source⟩] }

def resolve (env : List (String × String)) (c : Command) (r : Reading) : Except Stop Reading :=
  match r.pending with
  | none => .ok r
  | some pd => store env c { r with pending := none } pd.param pd.values .commandLine pd.long

def react (env : List (String × String)) (c : Command) (r : Reading) (p : Param)
    (values : List String) (long : Bool) : Except Stop Reading := do
  let r ← r.resolve env c
  r.store env c p values .commandLine long

/-- Takes values from the environment for the parameters not given on the command line. -/
def fromEnvironment (env : List (String × String)) (c : Command) :
    Reading → List Param → Except Stop Reading
  | r, [] => .ok r
  | r, p :: ps =>
    match p.env.bind (fun name => env.lookup name) with
    | some v =>
      if r.given.any (·.param == p.id) then fromEnvironment env c r ps
      else do
        let r ← r.store env c p [v] .environment false
        fromEnvironment env c r ps
    | none => fromEnvironment env c r ps

def cluster (env : List (String × String)) (c : Command) : Reading → List Char → Except Stop Reading
  | r, [] => .ok r
  | r, ch :: rest =>
    match c.findShort ch with
    | none =>
      .error (c.mistake (.unexpectedArgument ("-" ++ ch.toString) none none
        (!r.escaped && !c.positionals.isEmpty) c.usage))
    | some p =>
      if p.takesValue then
        if rest.isEmpty then do
          let r ← r.resolve env c
          return { r with pending := some ⟨p, [], false⟩ }
        else
          let v := match rest with
            | '=' :: t => t
            | t => t
          r.react env c p [String.ofList v] false
      else do
        let r ← r.react env c p [] false
        cluster env c r rest

end Reading

/-- A long name and the value after its first `=`, if any. -/
def splitAtEquals : List Char → List Char × Option (List Char)
  | [] => ([], none)
  | '=' :: rest => ([], some rest)
  | ch :: rest =>
    let (name, value) := splitAtEquals rest
    (ch :: name, value)

def looksLong (w : String) : Bool := w.startsWith "--" && w != "--"

def looksShort (w : String) : Bool := w.startsWith "-" && !w.startsWith "--" && w != "-"

namespace Command

/-- The mistake of a long name that the command does not have, with the words after it: a
similar long name of the command, else a similar one of the first subcommand named later. -/
def unknownLong (c : Command) (name : String) (later : List String) : UsageError :=
  let arg := "--" ++ name
  match mostSimilar name c.longNames with
  | some s => .unexpectedArgument arg (some ("--" ++ s)) none false c.usage
  | none =>
    let elsewhere := c.subcommands.filterMap fun s =>
      match mostSimilar name s.longNames, later.idxOf? s.name with
      | some flag, some i => some (i, s.name, flag)
      | _, _ => none
    let first := elsewhere.foldl (fun best x =>
      match best with
      | some b => if x.1 < b.1 then some x else some b
      | none => some x) none
    match first with
    | some (_, sub, flag) => .unexpectedArgument arg none (some (sub, "--" ++ flag)) false c.usage
    | none => .unexpectedArgument arg none none (!c.positionals.isEmpty) c.usage

def strayWord (c : Command) (r : Reading) (w : String) : UsageError :=
  let asValue := !r.escaped && !c.positionals.isEmpty && (looksLong w || looksShort w)
  if r.escaped && (c.findSub w).isSome then .escapedSubcommand w c.usage
  else if !c.subcommands.isEmpty then
    let near := similar w c.subNames
    if !near.isEmpty || c.positionals.isEmpty then .unrecognizedSubcommand w near c.usage
    else .unexpectedArgument w none none asValue c.usage
  else .unexpectedArgument w none none asValue c.usage

/-- What `help` followed by some words prints: the long help text of the command they name. -/
def helpFor (env : List (String × String)) (c : Command) : List String → Stop
  | [] => .help (c.helpText true env)
  | w :: ws =>
    match c.findSub w with
    | some s => helpFor env s ws
    | none => c.mistake (.unrecognizedSubcommand w [] c.usage)

/-- Ends the words of a command: checks the parameter waiting, then consults the environment. -/
def finish (env : List (String × String)) (c : Command) (r : Reading)
    (sub : Option (String × List Given)) : Except Stop Parsed := do
  let r ← r.resolve env c
  let r ← r.fromEnvironment env c c.params
  return ⟨r.given, sub⟩

def walk (env : List (String × String)) (c : Command) (r : Reading) :
    List String → Except Stop Parsed
  | [] => c.finish env r none
  | w :: rest =>
    match (if r.escaped then none else c.findSub w) with
    | some s =>
      if s.name == "help" then .error (c.helpFor env rest)
      else
        match walk env s Reading.empty rest with
        | .error e => .error e
        | .ok p => c.finish env r (some (s.name, p.given))
    | none =>
      if !r.escaped && w == "--" then walk env c { r with escaped := true } rest
      else if !r.escaped && looksLong w then
        let (name, attached) := splitAtEquals (w.toList.drop 2)
        let name := String.ofList name
        match c.findLong name with
        | none => .error (c.mistake (c.unknownLong name rest))
        | some p =>
          if p.takesValue then
            match attached with
            | some v => do
              let r ← r.react env c p [String.ofList v] true
              walk env c r rest
            | none => do
              let r ← r.resolve env c
              walk env c { r with pending := some ⟨p, [], true⟩ } rest
          else
            match attached with
            | some v => .error (c.mistake (.unexpectedValue (String.ofList v) p.display c.usage))
            | none => do
              let r ← r.react env c p [] true
              walk env c r rest
      else if !r.escaped && looksShort w then do
        let r ← r.cluster env c (w.toList.drop 1)
        walk env c r rest
      else if !r.escaped && r.awaitsValue then
        match r.pending with
        | some pd => walk env c { r with pending := some { pd with values := [w] } } rest
        | none => walk env c r rest
      else
        match c.positionals[r.position]? with
        | some p => do
          let r ← r.resolve env c
          walk env c { r with pending := some ⟨p, [w], true⟩, position := r.position + 1 } rest
        | none => .error (c.mistake (c.strayWord r w))

end Command

/-- Reads a command line against a command, with the environment it runs in. -/
def parse (c : Command) (env : List (String × String)) (args : List String) :
    Except Stop Parsed :=
  c.walk env Reading.empty args

namespace Parsed

/-- The value of a parameter, as the command and its subcommand were given it: a value from
the subcommand's command line wins, then one from the command's, then one from the
environment. -/
def value (p : Parsed) (id : String) : Option String :=
  let top := p.given.find? (·.param == id)
  let low := p.sub.bind fun (_, g) => g.find? (·.param == id)
  match top, low with
  | some t, some l => if t.source == .commandLine && l.source == .environment then some t.value
    else some l.value
  | some t, none => some t.value
  | none, some l => some l.value
  | none, none => none

/-- Whether a flag is on. -/
def flag (p : Parsed) (id : String) : Bool := p.value id == some "true"

end Parsed

end Lexis.Cli
