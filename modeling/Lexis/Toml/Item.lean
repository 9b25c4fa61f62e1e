/-!
The items of a TOML document: strings, integers, floats, booleans, dates and times, arrays,
tables and arrays of tables. A table remembers how it came to be, because the rules on
extending a table depend on it: a table written inline is closed, a table defined by a header
cannot be defined again, a table that only stands on the path of a header may still be defined
by a header of its own, and a table made by dotted keys may be extended only by dotted keys.
-/

namespace Lexis.Toml

inductive TableKind where
  /-- Written inline, between braces; it is closed once written. -/
  | inline
  | defined
  /-- Made because a header's path runs through it. -/
  | implied
  /-- Made by a dotted key. -/
  | dotted
  deriving DecidableEq, Repr

inductive Item where
  | string (s : String)
  | integer (i : Int)
  | float (text : String)
  | boolean (b : Bool)
  | datetime (text : String)
  | array (items : List Item)
  | table (kind : TableKind) (entries : List (String × Item))
  | tables (items : List (List (String × Item)))
  deriving Repr

namespace Item

def lookup (entries : List (String × Item)) (key : String) : Option Item :=
  (entries.find? (·.1 == key)).map (·.2)

def replace (entries : List (String × Item)) (key : String) (v : Item) :
    List (String × Item) :=
  entries.map fun (k, w) => if k == key then (k, v) else (k, w)

/-- The value under a key of a table, if the item is a table that has it. -/
def get? (item : Item) (key : String) : Option Item :=
  match item with
  | table _ entries => lookup entries key
  | _ => none

end Item

end Lexis.Toml
