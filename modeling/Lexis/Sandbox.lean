import Lexis.Host

/-!
A model of a system for one run of a program: a tree of files and directories in a sandbox,
the environment, what standard input still holds, and what was written to the two output
streams.

The sandbox root holds `work`, the working directory, `home`, the home directory, and `xdg`,
the configuration directory. Its own absolute path is written `$ROOT`, so a path that starts
with `$ROOT/` names a place in the sandbox from its root, a path that starts with `/` names a
place outside it (where nothing is known to exist), and any other path is read from `work`.

Paths are resolved part by part as a system does: every part but the last must be a
directory that exists (else the path does not exist, or a file stands where a directory
should), `.` stays and `..` goes up, and a path that ends with `/` names a directory. Going up
from the root leaves the sandbox.
-/

namespace Lexis.Sandbox

inductive Entry where
  | directory
  | file (bytes : List UInt8)
  deriving DecidableEq, Repr

abbrev Tree := List (List String × Entry)

/-- The text that stands for the sandbox's absolute path. -/
def rootText : String := "$ROOT"

def lookup (t : Tree) (p : List String) : Option Entry := (t.find? (·.1 == p)).map (·.2)

def setEntry (t : Tree) (p : List String) (e : Entry) : Tree :=
  if (lookup t p).isSome then t.map fun x => if x.1 == p then (p, e) else x
  else t ++ [(p, e)]

/-- The directory above one; none is outside the sandbox. -/
def up : Option (List String) → Option (List String)
  | some [] => none
  | some d => some d.dropLast
  | none => none

/-- Where resolving a path ends: at a directory that exists (none outside the sandbox), or at
a name in such a directory. -/
inductive Spot where
  | dir (place : Option (List String))
  | name (parent : Option (List String)) (name : String)
  deriving DecidableEq, Repr

def walk (t : Tree) : Option (List String) → List String → Except IoError Spot
  | cur, [] => .ok (.dir cur)
  | cur, [n] =>
    if n == "." then .ok (.dir cur) else if n == ".." then .ok (.dir (up cur))
    else .ok (.name cur n)
  | cur, n :: rest =>
    if n == "." then walk t cur rest
    else if n == ".." then walk t (up cur) rest
    else
      match cur with
      | none => .error .notFound
      | some d =>
        match lookup t (d ++ [n]) with
        | some .directory => walk t (some (d ++ [n])) rest
        | some (.file _) => .error .notDirectory
        | none => .error .notFound

def origin (s : String) : Option (List String) × List String :=
  let parts := (s.splitOn "/").filter (!·.isEmpty)
  if s == rootText || s.startsWith (rootText ++ "/") then (some [], parts.drop 1)
  else if s.startsWith "/" then (none, parts)
  else (some ["work"], parts)

def resolve (t : Tree) (s : String) : Except IoError Spot :=
  let (start, parts) := origin s
  walk t start parts

inductive Found where
  | missing
  | directory
  | file (bytes : List UInt8)
  deriving DecidableEq, Repr

/-- What stands at a path; a file named with a final `/` is refused. -/
def find (t : Tree) (s : String) : Except IoError Found :=
  match resolve t s with
  | .error e => .error e
  | .ok (.dir _) => .ok .directory
  | .ok (.name none _) => .ok .missing
  | .ok (.name (some d) n) =>
    match lookup t (d ++ [n]) with
    | some .directory => .ok .directory
    | some (.file b) => if s.endsWith "/" then .error .notDirectory else .ok (.file b)
    | none => .ok .missing

def present (t : Tree) (s : String) : Bool :=
  match find t s with
  | .ok .missing => false
  | .ok _ => true
  | .error _ => false

def isDir (t : Tree) (s : String) : Bool :=
  match find t s with
  | .ok .directory => true
  | _ => false

def read (t : Tree) (s : String) : Except IoError (List UInt8) :=
  match find t s with
  | .ok (.file b) => .ok b
  | .ok .directory => .error .isDirectory
  | .ok .missing => .error .notFound
  | .error e => .error e

/-- Makes one directory, whose parent must exist. -/
def makeDir (t : Tree) (s : String) : Except IoError Tree :=
  match resolve t s with
  | .error e => .error e
  | .ok (.dir _) => .error .alreadyExists
  | .ok (.name none _) => .error .permissionDenied
  | .ok (.name (some d) n) =>
    match lookup t (d ++ [n]) with
    | some _ => .error .alreadyExists
    | none => .ok (setEntry t (d ++ [n]) .directory)

/-- Makes a directory and the missing ones above it, with a budget of levels: a directory
that already exists is fine, and a missing parent is made first. -/
def makeDirsWithin : Nat → Tree → String → Except IoError Tree
  | 0, _, _ => .error .notFound
  | fuel + 1, t, s =>
    if s.isEmpty then .ok t
    else
      match makeDir t s with
      | .ok t' => .ok t'
      | .error .notFound =>
        match Path.parent s with
        | none => .error (.other "failed to create whole tree")
        | some p =>
          match makeDirsWithin fuel t p with
          | .error e => .error e
          | .ok t' =>
            match makeDir t' s with
            | .ok t'' => .ok t''
            | .error e => if isDir t' s then .ok t' else .error e
      | .error e => if isDir t s then .ok t else .error e

def makeDirs (t : Tree) (s : String) : Except IoError Tree := makeDirsWithin (s.length + 1) t s

def write (t : Tree) (s : String) (text : String) : Except IoError Tree :=
  match resolve t s with
  | .error e => .error e
  | .ok (.dir _) => .error .isDirectory
  | .ok (.name none _) => .error .permissionDenied
  | .ok (.name (some d) n) =>
    match lookup t (d ++ [n]) with
    | some .directory => .error .isDirectory
    | some (.file _) =>
      if s.endsWith "/" then .error .notDirectory
      else .ok (setEntry t (d ++ [n]) (.file text.toUTF8.toList))
    | none =>
      if s.endsWith "/" then .error .isDirectory
      else .ok (setEntry t (d ++ [n]) (.file text.toUTF8.toList))

/-- The first line of some bytes, with its line feed, and the bytes after it. -/
def splitLine (bs : List UInt8) : List UInt8 × List UInt8 :=
  match bs.idxOf? 10 with
  | some i => (bs.take (i + 1), bs.drop (i + 1))
  | none => (bs, [])

structure World where
  tree : Tree
  env : List (String × String)
  input : List UInt8
  output : String
  errors : String
  deriving DecidableEq, Repr

/-- The tree with an entry placed at some parts, and the directories above it. -/
def place (t : Tree) (p : List String) (e : Entry) : Tree :=
  let above := (List.range p.length).map fun k => p.take k
  let t := above.foldl (fun t d =>
    if d.isEmpty || (lookup t d).isSome then t else setEntry t d .directory) t
  setEntry t p e

def World.start (entries : List (List String × Entry)) (env : List (String × String))
    (input : List UInt8) : World :=
  let base : Tree := [(["work"], .directory), (["home"], .directory), (["xdg"], .directory)]
  ⟨entries.foldl (fun t e => place t e.1 e.2) base, env, input, "", ""⟩

/-- The parts of a path given from the sandbox root, if it stays inside: not absolute and
without `..`. -/
def partsBelowRoot (s : String) : Option (List String) :=
  let parts := ((s.splitOn "/").filter (!·.isEmpty)).filter (· != ".")
  if s.startsWith "/" || parts.contains ".." || parts.isEmpty then none else some parts

def World.contents (w : World) (p : List String) : Option (List UInt8) :=
  match lookup w.tree p with
  | some (.file b) => some b
  | _ => none

def host : Host (StateM World) where
  var name := do return (← get).env.lookup name
  homeDir := pure (some (rootText ++ "/home"))
  configDir := pure (some (rootText ++ "/xdg"))
  present s := do return present (← get).tree s
  readFile s := do return read (← get).tree s
  makeDirs s := modifyGet fun w =>
    match makeDirs w.tree s with
    | .ok t => (.ok (), { w with tree := t })
    | .error e => (.error e, w)
  writeFile s text := modifyGet fun w =>
    match write w.tree s text with
    | .ok t => (.ok (), { w with tree := t })
    | .error e => (.error e, w)
  readInput := modifyGet fun w => (w.input, { w with input := [] })
  readLine := modifyGet fun w =>
    match w.input with
    | [] => (none, w)
    | bs => let (line, rest) := splitLine bs; (some line, { w with input := rest })
  print s := modify fun w => { w with output := w.output ++ s }
  printError s := modify fun w => { w with errors := w.errors ++ s }

end Lexis.Sandbox
