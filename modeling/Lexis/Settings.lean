import Lexis.Listing
import Lexis.Toml.Document
import Lexis.Toml.Write

/-!
Settings of the command line: whether to talk more (`verbose`), the prompt of a session and
whether it shows spans (table `repl`), and the default form of a listing (table `output`).

They are read from a TOML document. A missing key takes its default, a key nobody knows is
left alone, and a key with a value of the wrong type makes the whole document unreadable. A
table of settings may also be written as an array, whose items then stand for the keys in
their order. Settings are written back as a TOML document with all keys present.
-/

namespace Lexis

structure Settings where
  verbose : Bool := false
  prompt : String := "> "
  showSpans : Bool := false
  format : ListingFormat := .text
  deriving DecidableEq, Repr

namespace Settings

open Toml

def decodeBool : Item → Except String Bool
  | .boolean b => .ok b
  | _ => .error "expected a boolean"

def decodeString : Item → Except String String
  | .string s => .ok s
  | _ => .error "expected a string"

/-- Whether an item is empty: an empty table, array or array of tables. -/
def isEmptyItem : Item → Bool
  | .table _ [] => true
  | .array [] => true
  | .tables [] => true
  | _ => false

/-- A listing format: its name, or a table with its name as the only key over an empty item. -/
def decodeFormat : Item → Except String ListingFormat
  | .string s =>
    match ListingFormat.ofName? s with
    | some f => .ok f
    | none => .error "unknown format"
  | .table _ [(k, v)] =>
    match ListingFormat.ofName? k with
    | some f => if isEmptyItem v then .ok f else .error "expected an empty table"
    | none => .error "unknown format"
  | _ => .error "expected a format"

/-- The items of the fields of a record, by name from a table or by position from an array. -/
def fields (names : List String) : Item → Except String (List (Option Item))
  | .table _ entries => .ok (names.map (Item.lookup entries))
  | .array items => .ok ((List.range names.length).map (items[·]?))
  | .tables ts => .ok ((List.range names.length).map fun i => (ts[i]?).map (.table .defined))
  | _ => .error "expected a table"

/-- A field read with a decoder, or its default when it is missing. -/
def field {α : Type} (decode : Item → Except String α) (default : α) :
    Option Item → Except String α
  | none => .ok default
  | some item => decode item

def ofItem (root : Item) : Except String Settings := do
  let top ← fields ["verbose", "repl", "output"] root
  let verbose ← field decodeBool false top[0]?.join
  let (prompt, showSpans) ← field (fun item => do
      let fs ← fields ["prompt", "show_spans"] item
      let prompt ← field decodeString "> " fs[0]?.join
      let showSpans ← field decodeBool false fs[1]?.join
      return (prompt, showSpans)) ("> ", false) top[1]?.join
  let format ← field (fun item => do
      let fs ← fields ["format"] item
      field decodeFormat .text fs[0]?.join) .text top[2]?.join
  return ⟨verbose, prompt, showSpans, format⟩

/-- The settings written in a TOML text, or why it holds none. -/
def ofToml (text : String) : Except String Settings := do
  ofItem (← Toml.parse text)

def toToml (s : Settings) : String :=
  "verbose = " ++ toString s.verbose ++ "\n\n[repl]\nprompt = " ++ writeString s.prompt ++
    "\nshow_spans = " ++ toString s.showSpans ++ "\n\n[output]\nformat = " ++
    writeString s.format.name ++ "\n"

end Settings

end Lexis
