import Lexis.App.Run

/-!
The `plct` program on the system it runs on: the services of `Lexis.Host` in `IO`, and `main`.

A session reads standard input a line at a time, so it answers each line as it is entered.
-/

namespace Lexis.Terminal

/-- The system's error number of a failure, when it has one. -/
def errorCode : IO.Error → Option UInt32
  | .alreadyExists _ c _ => some c
  | .noFileOrDirectory _ c _ => some c
  | .permissionDenied _ c _ => some c
  | .inappropriateType _ c _ => some c
  | .otherError c _ => some c
  | _ => none

/-- A failure of the system as the program reports it. -/
def ioError (e : IO.Error) : IoError :=
  match errorCode e with
  | some 2 => .notFound
  | some 13 => .permissionDenied
  | some 17 => .alreadyExists
  | some 20 => .notDirectory
  | some 21 => .isDirectory
  | _ => .other (toString e)

/-- Runs an action, keeping its failure as a value. -/
def attempt {α : Type} (act : IO α) : IO (Except IoError α) :=
  try
    let a ← act
    return .ok a
  catch e => return .error (ioError e)

/-- Reads a stream to its end. -/
partial def readAll (s : IO.FS.Stream) (acc : Array UInt8) : IO (Array UInt8) := do
  let chunk ← s.read 4096
  if chunk.isEmpty then return acc
  readAll s (acc ++ chunk.toList.toArray)

/-- Reads a stream up to and including its next line feed. -/
partial def readLineBytes (s : IO.FS.Stream) (acc : Array UInt8) : IO (Array UInt8) := do
  let b ← s.read 1
  match b.toList with
  | [] => return acc
  | [10] => return acc.push 10
  | bs => readLineBytes s (acc ++ bs.toArray)

/-- The home directory, from `HOME`. -/
def home : IO (Option String) := do
  match ← IO.getEnv "HOME" with
  | some h => return if h.isEmpty then none else some h
  | none => return none

/-- The services of the system the program runs on. -/
def host (stdin stdout stderr : IO.FS.Stream) : Host IO where
  var name := IO.getEnv name
  homeDir := home
  configDir := do
    match ← IO.getEnv "XDG_CONFIG_HOME" with
    | some d => if d.startsWith "/" then return some d else return (← home).map (Path.join · ".config")
    | none => return (← home).map (Path.join · ".config")
  present p := do
    try
      let _ ← IO.FS.Handle.mk p .read
      return true
    catch e =>
      match ioError e with
      | .notFound | .notDirectory => return false
      | _ => return true
  readFile p := attempt do
    let b ← IO.FS.readBinFile p
    return b.toList
  makeDirs p := attempt (IO.FS.createDirAll p)
  writeFile p text := attempt (IO.FS.writeFile p text)
  readInput := do
    let bs ← readAll stdin #[]
    return bs.toList
  readLine := do
    let bs ← readLineBytes stdin #[]
    return if bs.isEmpty then none else some bs.toList
  print s := do
    stdout.putStr s
    stdout.flush
  printError s := do
    stderr.putStr s
    stderr.flush

end Lexis.Terminal

/-- Runs `plct` with the arguments of the command line. -/
def main (args : List String) : IO UInt32 := do
  let host := Lexis.Terminal.host (← IO.getStdin) (← IO.getStdout) (← IO.getStderr)
  let status ← Lexis.App.run host (Nat.pow 2 62) args
  return status.toUInt32
