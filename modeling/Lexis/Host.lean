/-!
What a program asks of the system it runs on: environment variables, the user's directories,
files, standard input and the two output streams.

The program is written against this interface in any monad, so the same definitions run on a
real system and on a model of one. Paths are texts, as the user wrote them or as the program
joined them; the system resolves them.
-/

namespace Lexis

inductive IoError where
  | notFound
  | isDirectory
  | notDirectory
  | alreadyExists
  | permissionDenied
  /-- Bytes that were to be read as text and are not UTF-8. -/
  | invalidUtf8
  | other (message : String)
  deriving DecidableEq, Repr

def IoError.message : IoError → String
  | .notFound => "No such file or directory (os error 2)"
  | .isDirectory => "Is a directory (os error 21)"
  | .notDirectory => "Not a directory (os error 20)"
  | .alreadyExists => "File exists (os error 17)"
  | .permissionDenied => "Permission denied (os error 13)"
  | .invalidUtf8 => "stream did not contain valid UTF-8"
  | .other m => m

/-- The services of a system, in a monad. -/
structure Host (m : Type → Type) where
  var : String → m (Option String)
  homeDir : m (Option String)
  configDir : m (Option String)
  present : String → m Bool
  readFile : String → m (Except IoError (List UInt8))
  /-- Makes a directory and those above it that are missing. -/
  makeDirs : String → m (Except IoError Unit)
  /-- Writes a text as a file, replacing what was there. -/
  writeFile : String → String → m (Except IoError Unit)
  readInput : m (List UInt8)
  /-- The next line of standard input with its line feed, if input has not ended. -/
  readLine : m (Option (List UInt8))
  print : String → m Unit
  printError : String → m Unit

def utf8? (bytes : List UInt8) : Option String := String.fromUTF8? ⟨bytes.toArray⟩

namespace Path

/-- A path with another appended: a separator goes between them unless the first is empty or
already ends in one; an absolute second path replaces the first. -/
def join (a b : String) : String :=
  if b.startsWith "/" then b
  else if a.isEmpty || a.endsWith "/" then a ++ b
  else a ++ "/" ++ b

/-- The parts of a path: what its separators divide, without empty parts and without `.`
after the first part. -/
def parts (p : String) : List String :=
  match (p.splitOn "/").filter (!·.isEmpty) with
  | [] => []
  | first :: rest => first :: rest.filter (· != ".")

/-- The parent of a path: the path without its last part. The root and the empty path have
none. -/
def parent (p : String) : Option String :=
  let ps := parts p
  if ps.isEmpty then none
  else some ((if p.startsWith "/" then "/" else "") ++ "/".intercalate ps.dropLast)

end Path

end Lexis
