import Lexis.Toml.Item
import Lexis.Toml.Lexical

/-!
TOML documents: values (with arrays and inline tables), key/value lines, table headers and
headers of arrays of tables, assembled into one root table.

The assembly follows the rules of TOML 1.0 on defining tables: a key is set once; a header
defines a table once, but may define a table that an earlier header only ran through; dotted
keys extend only tables that dotted keys made; inline tables are closed. A header of an array
of tables adds a table to it, and keys after it go into that newest table.

Readers of nested values carry a budget of steps that the length of the text bounds, since each
step reads at least one character.
-/

namespace Lexis.Toml

namespace Document

open Lexical

/-- Changes the table at the end of a path of keys, starting from a table. A missing key is made
a table of kind `create` (or refused when there is none); a table on the way is entered only if
`mayEnter` allows its kind; an array of tables is entered at its last table. -/
def atPath (create : Option TableKind) (mayEnter : TableKind → Bool)
    (change : Item → Except String Item) : List String → Item → Except String Item
  | [], item => change item
  | k :: ks, .table kind entries =>
    match Item.lookup entries k with
    | none =>
      match create with
      | none => .error "no such table"
      | some nk => do
        let sub ← atPath create mayEnter change ks (.table nk [])
        return .table kind (entries ++ [(k, sub)])
    | some (.table sk se) =>
      if mayEnter sk then do
        let sub ← atPath create mayEnter change ks (.table sk se)
        return .table kind (Item.replace entries k sub)
      else .error "a table cannot be extended here"
    | some (.tables ts) =>
      match ts.getLast? with
      | none => .error "empty array of tables"
      | some last => do
        let sub ← atPath create mayEnter change ks (.table .defined last)
        match sub with
        | .table _ e => return .table kind (Item.replace entries k (.tables (ts.dropLast ++ [e])))
        | _ => .error "not a table"
    | some _ => .error "a value is not a table"
  | _ :: _, _ => .error "a value is not a table"

def extendsByDots (kind : TableKind) : Bool := kind == .dotted || kind == .implied

/-- Sets a key of a table to a value. A key reached through dotted keys must land in a table
that dotted keys made, and a plain key in one that they did not. -/
def setKey (key : String) (v : Item) (throughDots : Bool) : Item → Except String Item
  | .table kind entries =>
    if (kind == .dotted) != throughDots then .error "a table is defined twice"
    else if (Item.lookup entries key).isSome then .error "a key is defined twice"
    else .ok (.table kind (entries ++ [(key, v)]))
  | _ => .error "a value is not a table"

def setDotted (path : List String) (v : Item) (tbl : Item) : Except String Item :=
  match path.getLast? with
  | none => .error "empty key"
  | some key =>
    let front := path.dropLast
    atPath (some .dotted) extendsByDots (setKey key v !front.isEmpty) front tbl

def skipArrayBlanks (inComment : Bool) : List Char → Except String (List Char)
  | '\n' :: r => skipArrayBlanks false r
  | '\r' :: '\n' :: r => skipArrayBlanks false r
  | c :: r =>
    if inComment then
      if isTextChar c then skipArrayBlanks true r else .error "invalid character in a comment"
    else if isSpace c then skipArrayBlanks false r
    else if c = '#' then skipArrayBlanks true r
    else .ok (c :: r)
  | [] => .ok []

def plain (cs : List Char) : Reads Item :=
  let (run, rest) := plainRun cs
  if run = ['t', 'r', 'u', 'e'] then .ok (.boolean true, rest)
  else if run = ['f', 'a', 'l', 's', 'e'] then .ok (.boolean false, rest)
  else if isDatetime run then .ok (.datetime (String.ofList run), rest)
  else
    match integer? run with
    | some i => .ok (.integer i, rest)
    | none =>
      if isFloat run then .ok (.float (String.ofList run), rest)
      else .error "invalid value"

mutual

def value (fuel : Nat) (cs : List Char) : Except String (Item × List Char) :=
  match fuel with
  | 0 => .error "value nested too deeply"
  | fuel + 1 =>
    match string? cs with
    | some (.ok (s, rest)) => .ok (.string s, rest)
    | some (.error e) => .error e
    | none =>
      match cs with
      | '[' :: r => arrayItems fuel [] r
      | '\x7b' :: r =>
        match r.dropWhile isSpace with
        | '\x7d' :: r' => .ok (.table .inline [], r')
        | r' => inlinePairs fuel (.table .inline []) r'
      | _ => plain cs

/-- The items of an array after its opening bracket, those read so far in reverse. -/
def arrayItems (fuel : Nat) (acc : List Item) (cs : List Char) :
    Except String (Item × List Char) :=
  match fuel with
  | 0 => .error "array too long"
  | fuel + 1 => do
    let cs ← skipArrayBlanks false cs
    match cs with
    | ']' :: r => .ok (.array acc.reverse, r)
    | _ => do
      let (v, r) ← value fuel cs
      let r ← skipArrayBlanks false r
      match r with
      | ',' :: r' => arrayItems fuel (v :: acc) r'
      | ']' :: r' => .ok (.array (v :: acc).reverse, r')
      | _ => .error "expected a comma or the end of the array"

/-- The key/value pairs of an inline table after its opening brace, set into `tbl`. -/
def inlinePairs (fuel : Nat) (tbl : Item) (cs : List Char) :
    Except String (Item × List Char) :=
  match fuel with
  | 0 => .error "inline table too long"
  | fuel + 1 => do
    let (path, r) ← key cs
    match r.dropWhile isSpace with
    | '=' :: r => do
      let (v, r) ← value fuel (r.dropWhile isSpace)
      let tbl ← setDotted path v tbl
      match r.dropWhile isSpace with
      | ',' :: r' => inlinePairs fuel tbl (r'.dropWhile isSpace)
      | '\x7d' :: r' => .ok (tbl, r')
      | _ => .error "expected a comma or the end of the inline table"
    | _ => .error "expected an equals sign"

end

def restOfComment : List Char → Except String (List Char)
  | '\n' :: r => .ok r
  | '\r' :: '\n' :: r => .ok r
  | c :: r => if isTextChar c then restOfComment r else .error "invalid character in a comment"
  | [] => .ok []

/-- The end of a line: blanks, an optional comment, and a line feed or the end of the text. -/
def lineEnd (cs : List Char) : Except String (List Char) :=
  match cs.dropWhile isSpace with
  | [] => .ok []
  | '\n' :: r => .ok r
  | '\r' :: '\n' :: r => .ok r
  | '#' :: r => restOfComment r
  | _ => .error "expected the end of the line"

/-- A document being read: the root table and the path of the table that keys go into. -/
structure Builder where
  root : Item
  current : List String

def defineTable (key : String) : Item → Except String Item
  | .table kind entries =>
    match Item.lookup entries key with
    | none => .ok (.table kind (entries ++ [(key, .table .defined [])]))
    | some (.table .implied e) => .ok (.table kind (Item.replace entries key (.table .defined e)))
    | some _ => .error "a table is defined twice"
  | _ => .error "a value is not a table"

def appendTable (key : String) : Item → Except String Item
  | .table kind entries =>
    match Item.lookup entries key with
    | none => .ok (.table kind (entries ++ [(key, .tables [[]])]))
    | some (.tables ts) => .ok (.table kind (Item.replace entries key (.tables (ts ++ [[]]))))
    | some _ => .error "not an array of tables"
  | _ => .error "a value is not a table"

namespace Builder

def header (b : Builder) (path : List String) : Except String Builder :=
  match path.getLast? with
  | none => .error "empty header"
  | some k => do
    let root ← atPath (some .implied) (· != .inline) (defineTable k) path.dropLast b.root
    return ⟨root, path⟩

def arrayHeader (b : Builder) (path : List String) : Except String Builder :=
  match path.getLast? with
  | none => .error "empty header"
  | some k => do
    let root ← atPath (some .implied) (· != .inline) (appendTable k) path.dropLast b.root
    return ⟨root, path⟩

def keyValue (b : Builder) (path : List String) (v : Item) : Except String Builder := do
  let root ← atPath none (fun _ => true) (setDotted path v) b.current b.root
  return { b with root }

end Builder

/-- The lines of a document after those already read into `b`. -/
def lines (fuel : Nat) (b : Builder) (cs : List Char) : Except String Builder :=
  match fuel with
  | 0 => .error "document too long"
  | fuel + 1 =>
    match cs.dropWhile isSpace with
    | [] => .ok b
    | '\n' :: r => lines fuel b r
    | '\r' :: '\n' :: r => lines fuel b r
    | '#' :: r => do
      let r ← restOfComment r
      lines fuel b r
    | '[' :: '[' :: r => do
      let (path, r) ← key (r.dropWhile isSpace)
      match r.dropWhile isSpace with
      | ']' :: ']' :: r => do
        let b ← b.arrayHeader path
        let r ← lineEnd r
        lines fuel b r
      | _ => .error "expected the end of a header"
    | '[' :: r => do
      let (path, r) ← key (r.dropWhile isSpace)
      match r.dropWhile isSpace with
      | ']' :: r => do
        let b ← b.header path
        let r ← lineEnd r
        lines fuel b r
      | _ => .error "expected the end of a header"
    | cs' => do
      let (path, r) ← key cs'
      match r.dropWhile isSpace with
      | '=' :: r => do
        let (v, r) ← value (3 * r.length + 3) (r.dropWhile isSpace)
        let b ← b.keyValue path v
        let r ← lineEnd r
        lines fuel b r
      | _ => .error "expected an equals sign"

end Document

def parse (s : String) : Except String Item :=
  let cs := match s.toList with
    | '\uFEFF' :: r => r
    | cs => cs
  (Document.lines (cs.length + 1) ⟨.table .defined [], []⟩ cs).map (·.root)

end Lexis.Toml
