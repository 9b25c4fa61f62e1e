/-!
The lexical layer of TOML 1.0: strings of the four kinds, keys, and the plain values that are
written without quotes (booleans, integers, floats, dates and times).

Every reader takes the characters ahead and gives back what it read and the characters after
it, or a failure. Strings are read by recursion on the characters; a line feed written as
carriage return and line feed counts as one line feed.
-/

namespace Lexis.Toml

/-- A reader: what it read and the rest, or why the text is not TOML. -/
abbrev Reads (α : Type) := Except String (α × List Char)

namespace Lexical

def isSpace (c : Char) : Bool := c = ' ' || c = '\t'

def isBareKeyChar (c : Char) : Bool := c.isAlphanum || c = '_' || c = '-'

/-- A character that may stand in a comment or a literal string: tab, and everything from the
space on but delete. -/
def isTextChar (c : Char) : Bool := c = '\t' || (0x20 ≤ c.toNat && c.toNat != 0x7F)

def isBasicChar (c : Char) : Bool := isTextChar c && c != '"' && c != '\\'

def hexValue? (c : Char) : Option Nat :=
  if c.isDigit then some (c.toNat - 48)
  else if 'a' ≤ c && c ≤ 'f' then some (c.toNat - 87)
  else if 'A' ≤ c && c ≤ 'F' then some (c.toNat - 55)
  else none

def hexNumber? (cs : List Char) : Option Nat :=
  cs.foldlM (fun acc c => (hexValue? c).map (acc * 16 + ·)) 0

/-- The character of a code point written in an escape, if it is a Unicode scalar value. -/
def scalar? (cs : List Char) : Except String Char :=
  match hexNumber? cs with
  | some n =>
    if n < 0xD800 ∨ (0xDFFF < n ∧ n < 0x110000) then .ok (Char.ofNat n)
    else .error "escape is not a Unicode scalar value"
  | none => .error "invalid unicode escape"

def finish (acc : List Char) : String := String.ofList acc.reverse

/-- Whether a backslash here ends a line: only blanks follow it before the line feed. -/
def endsLine (cs : List Char) : Bool :=
  match cs.dropWhile isSpace with
  | '\n' :: _ => true
  | '\r' :: '\n' :: _ => true
  | _ => false

/-- The body of a basic string after its opening quote, with the characters read so far in
reverse. -/
def basicBody (acc : List Char) : List Char → Reads String
  | '"' :: r => .ok (finish acc, r)
  | '\\' :: 'b' :: r => basicBody ('\x08' :: acc) r
  | '\\' :: 't' :: r => basicBody ('\t' :: acc) r
  | '\\' :: 'n' :: r => basicBody ('\n' :: acc) r
  | '\\' :: 'f' :: r => basicBody ('\x0C' :: acc) r
  | '\\' :: 'r' :: r => basicBody ('\r' :: acc) r
  | '\\' :: '"' :: r => basicBody ('"' :: acc) r
  | '\\' :: '\\' :: r => basicBody ('\\' :: acc) r
  | '\\' :: 'u' :: a :: b :: c :: d :: r =>
    match scalar? [a, b, c, d] with
    | .ok x => basicBody (x :: acc) r
    | .error e => .error e
  | '\\' :: 'U' :: a :: b :: c :: d :: e :: f :: g :: h :: r =>
    match scalar? [a, b, c, d, e, f, g, h] with
    | .ok x => basicBody (x :: acc) r
    | .error e => .error e
  | '\\' :: _ => .error "invalid escape"
  | c :: r => if isBasicChar c then basicBody (c :: acc) r else .error "invalid basic string"
  | [] => .error "unterminated basic string"

/-- The body of a multi-line basic string after its opening quotes. After a backslash that
ends a line, blanks and line feeds are skipped (`trimming`). -/
def multilineBasicBody (trimming : Bool) (acc : List Char) : List Char → Reads String
  | ' ' :: r => if trimming then multilineBasicBody true acc r
    else multilineBasicBody false (' ' :: acc) r
  | '\t' :: r => if trimming then multilineBasicBody true acc r
    else multilineBasicBody false ('\t' :: acc) r
  | '\n' :: r => if trimming then multilineBasicBody true acc r
    else multilineBasicBody false ('\n' :: acc) r
  | '\r' :: '\n' :: r => if trimming then multilineBasicBody true acc r
    else multilineBasicBody false ('\n' :: acc) r
  | '"' :: '"' :: '"' :: '"' :: '"' :: '"' :: _ => .error "too many quotes"
  | '"' :: '"' :: '"' :: '"' :: '"' :: r => .ok (finish ('"' :: '"' :: acc), r)
  | '"' :: '"' :: '"' :: '"' :: r => .ok (finish ('"' :: acc), r)
  | '"' :: '"' :: '"' :: r => .ok (finish acc, r)
  | '"' :: r => multilineBasicBody false ('"' :: acc) r
  | '\\' :: 'b' :: r => multilineBasicBody false ('\x08' :: acc) r
  | '\\' :: 't' :: r => multilineBasicBody false ('\t' :: acc) r
  | '\\' :: 'n' :: r => multilineBasicBody false ('\n' :: acc) r
  | '\\' :: 'f' :: r => multilineBasicBody false ('\x0C' :: acc) r
  | '\\' :: 'r' :: r => multilineBasicBody false ('\r' :: acc) r
  | '\\' :: '"' :: r => multilineBasicBody false ('"' :: acc) r
  | '\\' :: '\\' :: r => multilineBasicBody false ('\\' :: acc) r
  | '\\' :: 'u' :: a :: b :: c :: d :: r =>
    match scalar? [a, b, c, d] with
    | .ok x => multilineBasicBody false (x :: acc) r
    | .error e => .error e
  | '\\' :: 'U' :: a :: b :: c :: d :: e :: f :: g :: h :: r =>
    match scalar? [a, b, c, d, e, f, g, h] with
    | .ok x => multilineBasicBody false (x :: acc) r
    | .error e => .error e
  | '\\' :: r => if endsLine r then multilineBasicBody true acc r else .error "invalid escape"
  | c :: r =>
    if isBasicChar c then multilineBasicBody false (c :: acc) r
    else .error "invalid multi-line basic string"
  | [] => .error "unterminated multi-line basic string"

def literalBody (acc : List Char) : List Char → Reads String
  | '\'' :: r => .ok (finish acc, r)
  | c :: r =>
    if isTextChar c then literalBody (c :: acc) r else .error "invalid literal string"
  | [] => .error "unterminated literal string"

def multilineLiteralBody (acc : List Char) : List Char → Reads String
  | '\'' :: '\'' :: '\'' :: '\'' :: '\'' :: '\'' :: _ => .error "too many quotes"
  | '\'' :: '\'' :: '\'' :: '\'' :: '\'' :: r => .ok (finish ('\'' :: '\'' :: acc), r)
  | '\'' :: '\'' :: '\'' :: '\'' :: r => .ok (finish ('\'' :: acc), r)
  | '\'' :: '\'' :: '\'' :: r => .ok (finish acc, r)
  | '\n' :: r => multilineLiteralBody ('\n' :: acc) r
  | '\r' :: '\n' :: r => multilineLiteralBody ('\n' :: acc) r
  | c :: r =>
    if isTextChar c then multilineLiteralBody (c :: acc) r
    else .error "invalid multi-line literal string"
  | [] => .error "unterminated multi-line literal string"

def dropFirstNewline : List Char → List Char
  | '\n' :: r => r
  | '\r' :: '\n' :: r => r
  | cs => cs

def string? : List Char → Option (Reads String)
  | '"' :: '"' :: '"' :: r => some (multilineBasicBody false [] (dropFirstNewline r))
  | '"' :: r => some (basicBody [] r)
  | '\'' :: '\'' :: '\'' :: r => some (multilineLiteralBody [] (dropFirstNewline r))
  | '\'' :: r => some (literalBody [] r)
  | _ => none

def simpleKey : List Char → Reads String
  | '"' :: r => basicBody [] r
  | '\'' :: r => literalBody [] r
  | cs =>
    let bare := cs.takeWhile isBareKeyChar
    if bare.isEmpty then .error "expected a key"
    else .ok (String.ofList bare, cs.dropWhile isBareKeyChar)

/-- The parts of a dotted key after its first part, read in reverse. -/
def dottedRest (acc : List String) (cs : List Char) (fuel : Nat) :
    Except String (List String × List Char) :=
  match fuel with
  | 0 => .error "key too long"
  | fuel + 1 =>
    match cs.dropWhile isSpace with
    | '.' :: r => do
      let (k, r) ← simpleKey (r.dropWhile isSpace)
      dottedRest (k :: acc) r fuel
    | _ => .ok (acc.reverse, cs)

def key (cs : List Char) : Except String (List String × List Char) := do
  let (k, r) ← simpleKey cs
  dottedRest [k] r (r.length + 1)

/-! ### Plain values -/

def isPlainChar (c : Char) : Bool :=
  c.isAlphanum || c = '_' || c = '+' || c = '-' || c = '.' || c = ':'

/-- Whether characters are digits with single underscores between them. -/
def digitsWithUnderscores (isDigitChar : Char → Bool) : List Char → Bool
  | [] => false
  | [c] => isDigitChar c
  | c :: '_' :: r => isDigitChar c && (match r with
    | d :: _ => isDigitChar d
    | [] => false) && digitsWithUnderscores isDigitChar r
  | c :: r => isDigitChar c && digitsWithUnderscores isDigitChar r

def digitValue (base : Nat) (cs : List Char) : Nat :=
  (cs.filter (· != '_')).foldl (fun acc c => acc * base + ((hexValue? c).getD 0)) 0

/-- Whether a run of decimal digits (with underscores) has no leading zero. -/
def noLeadingZero : List Char → Bool
  | '0' :: _ :: _ => false
  | _ => true

/-- The integer written by a plain value, if it is one that fits in 64 bits. -/
def integer? (cs : List Char) : Option Int :=
  let inRange (i : Int) : Option Int :=
    if -Int.pow 2 63 ≤ i ∧ i < Int.pow 2 63 then some i else none
  match cs with
  | '0' :: 'x' :: r =>
    if digitsWithUnderscores (fun c => (hexValue? c).isSome) r then inRange (digitValue 16 r)
    else none
  | '0' :: 'o' :: r =>
    if digitsWithUnderscores (fun c => '0' ≤ c && c ≤ '7') r then inRange (digitValue 8 r)
    else none
  | '0' :: 'b' :: r =>
    if digitsWithUnderscores (fun c => c = '0' || c = '1') r then inRange (digitValue 2 r)
    else none
  | _ =>
    let (negative, body) := match cs with
      | '-' :: r => (true, r)
      | '+' :: r => (false, r)
      | r => (false, r)
    if digitsWithUnderscores Char.isDigit body && noLeadingZero body then
      let n : Int := digitValue 10 body
      inRange (if negative then -n else n)
    else none

/-- Whether a plain value is a float: an integer part, then a fraction, an exponent or both; or
an infinity or not-a-number, with an optional sign. -/
def isFloat (cs : List Char) : Bool :=
  let body := match cs with
    | '-' :: r => r
    | '+' :: r => r
    | r => r
  if body = ['i', 'n', 'f'] || body = ['n', 'a', 'n'] then true
  else
    let intPart := body.takeWhile fun c => c.isDigit || c = '_'
    let after := body.dropWhile fun c => c.isDigit || c = '_'
    let exponentOk (e : List Char) : Bool :=
      match e with
      | '+' :: r => digitsWithUnderscores Char.isDigit r
      | '-' :: r => digitsWithUnderscores Char.isDigit r
      | r => digitsWithUnderscores Char.isDigit r
    digitsWithUnderscores Char.isDigit intPart && noLeadingZero intPart &&
      match after with
      | '.' :: r =>
        let frac := r.takeWhile fun c => c.isDigit || c = '_'
        let rest := r.dropWhile fun c => c.isDigit || c = '_'
        digitsWithUnderscores Char.isDigit frac &&
          match rest with
          | [] => true
          | e :: r' => (e = 'e' || e = 'E') && exponentOk r'
      | e :: r => (e = 'e' || e = 'E') && exponentOk r
      | [] => false

def twoDigits? : List Char → Option Nat
  | [a, b] => if a.isDigit && b.isDigit then some ((a.toNat - 48) * 10 + (b.toNat - 48)) else none
  | _ => none

def fourDigits? : List Char → Option Nat
  | [a, b, c, d] => do
    let hi ← twoDigits? [a, b]
    let lo ← twoDigits? [c, d]
    return hi * 100 + lo
  | _ => none

def daysInMonth (year month : Nat) : Nat :=
  if month = 2 then
    if year % 4 = 0 ∧ (year % 100 ≠ 0 ∨ year % 400 = 0) then 29 else 28
  else if month = 4 ∨ month = 6 ∨ month = 9 ∨ month = 11 then 30
  else 31

def isDate : List Char → Bool
  | [y1, y2, y3, y4, '-', m1, m2, '-', d1, d2] =>
    match fourDigits? [y1, y2, y3, y4], twoDigits? [m1, m2], twoDigits? [d1, d2] with
    | some y, some m, some d => 1 ≤ m && m ≤ 12 && 1 ≤ d && d ≤ daysInMonth y m
    | _, _, _ => false
  | _ => false

def isTime : List Char → Bool
  | h1 :: h2 :: ':' :: m1 :: m2 :: ':' :: s1 :: s2 :: frac =>
    match twoDigits? [h1, h2], twoDigits? [m1, m2], twoDigits? [s1, s2] with
    | some h, some m, some s =>
      h < 24 && m < 60 && s ≤ 60 &&
        match frac with
        | [] => true
        | '.' :: ds => !ds.isEmpty && ds.all Char.isDigit
        | _ => false
    | _, _, _ => false
  | _ => false

def isOffset : List Char → Bool
  | ['Z'] | ['z'] => true
  | [s, h1, h2, ':', m1, m2] =>
    (s = '+' || s = '-') &&
      match twoDigits? [h1, h2], twoDigits? [m1, m2] with
      | some h, some m => h < 24 && m < 60
      | _, _ => false
  | _ => false

def isTimeWithOffset (cs : List Char) : Bool :=
  let time := cs.takeWhile fun c => c.isDigit || c = ':' || c = '.'
  let offset := cs.dropWhile fun c => c.isDigit || c = ':' || c = '.'
  isTime time && (offset.isEmpty || isOffset offset)

def isDatetime (cs : List Char) : Bool :=
  if isTime cs then true
  else
    let date := cs.take 10
    match cs.drop 10 with
    | [] => isDate date
    | d :: time => isDate date && (d = 'T' || d = 't' || d = ' ') && isTimeWithOffset time

/-- A plain value at the front of a text: the characters it is written with. A date followed by
a blank and a time is one value. -/
def plainRun (cs : List Char) : List Char × List Char :=
  let first := cs.takeWhile isPlainChar
  let rest := cs.dropWhile isPlainChar
  match rest with
  | ' ' :: a :: b :: ':' :: more =>
    if isDate first && a.isDigit && b.isDigit then
      let second := (a :: b :: ':' :: more).takeWhile isPlainChar
      (first ++ ' ' :: second, (a :: b :: ':' :: more).dropWhile isPlainChar)
    else (first, rest)
  | _ => (first, rest)

end Lexical

end Lexis.Toml
