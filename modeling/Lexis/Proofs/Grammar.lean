import Mathlib
import Lexis.Chars

/-!
The lexical grammar of the source language, stated on its own terms: what may stand between two
tokens, and the language of each class of token, as sets of character lists. Character classes
are spelled out as ranges and lists of characters; the lemmas at the end relate each of them to
the test of the same name in `Lexis.Chars`, which is all that ties the grammar to the scanners.

* trivia: `(blank | '//' [^\n\r]*)*`, the blanks being space, tab, LF, VT, FF and CR;
* identifier: `[A-Za-z_][A-Za-z0-9_-]*`;
* number: `[+-]? [0-9]+ ('.' [0-9]+)? ([eE] [+-]? [0-9]+)?`;
* character: `'` then one character other than `'`, `\`, LF, CR, or an escape, then `'`;
* string: `"` then characters other than `"`, `\`, LF, CR, and escapes, then `"`;
* escape: `\` then one of `b n r t ' " \`;
* operator: `[<>!=] '='?`, or one character that is not an ASCII letter or digit, `_`, a quote,
  space, backspace, LF, CR or tab.
-/

namespace Lexis.Grammar

/-! ### Character classes -/

def IsLetter (c : Char) : Prop := ('a' ≤ c ∧ c ≤ 'z') ∨ ('A' ≤ c ∧ c ≤ 'Z')

def IsDigit (c : Char) : Prop := '0' ≤ c ∧ c ≤ '9'

def IsSign (c : Char) : Prop := c = '+' ∨ c = '-'

def IsBlank (c : Char) : Prop :=
  c = ' ' ∨ c = '\t' ∨ c = '\n' ∨ c = '\x0B' ∨ c = '\x0C' ∨ c = '\r'

def IsLineBreak (c : Char) : Prop := c = '\n' ∨ c = '\r'

def IsEscapeLetter (c : Char) : Prop :=
  c = 'b' ∨ c = 'n' ∨ c = 'r' ∨ c = 't' ∨ c = '\'' ∨ c = '"' ∨ c = '\\'

def IsComparison (c : Char) : Prop := c = '<' ∨ c = '>' ∨ c = '!' ∨ c = '='

/-- A character that is an operator on its own. -/
def IsOperatorChar (c : Char) : Prop :=
  ¬(IsLetter c ∨ IsDigit c ∨ c = '_' ∨ c = '\'' ∨ c = '"' ∨ c = ' ' ∨ c = '\x08' ∨ c = '\n' ∨
    c = '\r' ∨ c = '\t')

theorem not_isDigit_of_isLetter {c : Char} (h : IsLetter c) : ¬IsDigit c := by
  simp only [IsLetter, IsDigit, Char.le_def, UInt32.le_iff_toNat_le] at *
  have ha : ('a' : Char).val.toNat = 97 := rfl
  have hz : ('z' : Char).val.toNat = 122 := rfl
  have hA : ('A' : Char).val.toNat = 65 := rfl
  have hZ : ('Z' : Char).val.toNat = 90 := rfl
  have h0 : ('0' : Char).val.toNat = 48 := rfl
  have h9 : ('9' : Char).val.toNat = 57 := rfl
  omega

/-! ### Trivia -/

/-- Text that may stand between tokens: blanks and line comments, in any number and order. A
comment runs from two slashes up to a line break, which it does not include. -/
inductive Trivia : List Char → Prop
  | nil : Trivia []
  | blank {c : Char} {r : List Char} : IsBlank c → Trivia r → Trivia (c :: r)
  | comment {body r : List Char} : (∀ x ∈ body, ¬IsLineBreak x) → Trivia r →
      Trivia ('/' :: '/' :: body ++ r)

namespace Trivia

theorem append {u v : List Char} (hu : Trivia u) (hv : Trivia v) : Trivia (u ++ v) := by
  induction hu with
  | nil => exact hv
  | blank hc _ ih => exact .blank hc ih
  | @comment body r hbody _ ih =>
    rw [List.cons_append, List.cons_append, List.append_assoc]
    exact .comment hbody ih

theorem of_blanks {u : List Char} (hu : ∀ x ∈ u, IsBlank x) : Trivia u := by
  induction u with
  | nil => exact .nil
  | cons x u ih =>
    exact .blank (hu x (by simp)) (ih fun y hy => hu y (by simp [hy]))

theorem of_comment {body : List Char} (hbody : ∀ x ∈ body, ¬IsLineBreak x) :
    Trivia ('/' :: '/' :: body) := by
  simpa using Trivia.comment hbody Trivia.nil

end Trivia

/-! ### The languages of the token classes -/

def IsIdentifier : List Char → Prop
  | c :: r => (IsLetter c ∨ c = '_') ∧ ∀ x ∈ r, IsLetter x ∨ IsDigit x ∨ x = '_' ∨ x = '-'
  | [] => False

def IsDigits (ds : List Char) : Prop := ds ≠ [] ∧ ∀ x ∈ ds, IsDigit x

def IsOptSign (sg : List Char) : Prop := sg = [] ∨ ∃ c, sg = [c] ∧ IsSign c

def IsOptFraction (fr : List Char) : Prop := fr = [] ∨ ∃ ds, fr = '.' :: ds ∧ IsDigits ds

def IsOptExponent (ex : List Char) : Prop :=
  ex = [] ∨ ∃ e sg ds, ex = e :: (sg ++ ds) ∧ (e = 'e' ∨ e = 'E') ∧ IsOptSign sg ∧ IsDigits ds

def IsNumber (w : List Char) : Prop :=
  ∃ sg ds fr ex, w = sg ++ ds ++ fr ++ ex ∧ IsOptSign sg ∧ IsDigits ds ∧ IsOptFraction fr ∧
    IsOptExponent ex

def IsEscape (w : List Char) : Prop := ∃ x, w = ['\\', x] ∧ IsEscapeLetter x

def IsCharacter (w : List Char) : Prop :=
  ∃ body, w = '\'' :: (body ++ ['\'']) ∧
    ((∃ x, body = [x] ∧ x ≠ '\'' ∧ x ≠ '\\' ∧ ¬IsLineBreak x) ∨ IsEscape body)

inductive StringBody : List Char → Prop
  | nil : StringBody []
  | plain {x : Char} {r : List Char} : x ≠ '"' → x ≠ '\\' → ¬IsLineBreak x → StringBody r →
      StringBody (x :: r)
  | escape {x : Char} {r : List Char} : IsEscapeLetter x → StringBody r →
      StringBody ('\\' :: x :: r)

def IsString (w : List Char) : Prop := ∃ body, w = '"' :: (body ++ ['"']) ∧ StringBody body

def IsOperator (w : List Char) : Prop :=
  (∃ c, IsComparison c ∧ (w = [c] ∨ w = [c, '='])) ∨ ∃ c, IsOperatorChar c ∧ w = [c]

/-- `n` is the length of the longest prefix of `R` in the language `L`. -/
structure LongestPrefix (L : List Char → Prop) (R : List Char) (n : Nat) : Prop where
  le_length : n ≤ R.length
  mem : L (R.take n)
  maximal : ∀ m ≤ R.length, L (R.take m) → m ≤ n

/-! ### The tests of `Lexis.Chars` decide these classes -/

section Tests

open Chars

variable (c : Char)

theorem isDigit_iff : isDigit c = true ↔ IsDigit c := by
  simp [isDigit, Char.isDigit, IsDigit, Char.le_def]

theorem isAlpha_iff : c.isAlpha = true ↔ IsLetter c := by
  simp [Char.isAlpha, Char.isUpper, Char.isLower, IsLetter, Char.le_def, or_comm]

theorem isAlphanum_iff : c.isAlphanum = true ↔ IsLetter c ∨ IsDigit c := by
  rw [← isAlpha_iff, ← isDigit_iff]
  simp [Char.isAlphanum, isDigit]

theorem isSign_iff : isSign c = true ↔ IsSign c := by simp [isSign, IsSign]

theorem isBlank_iff : isBlank c = true ↔ IsBlank c := by simp [isBlank, IsBlank, or_assoc]

theorem isLineBreak_iff : isLineBreak c = true ↔ IsLineBreak c := by
  simp [isLineBreak, IsLineBreak]

theorem isIdentStart_iff : isIdentStart c = true ↔ IsLetter c ∨ c = '_' := by
  simp [isIdentStart, isAlpha_iff]

theorem isIdentContinue_iff :
    isIdentContinue c = true ↔ IsLetter c ∨ IsDigit c ∨ c = '_' ∨ c = '-' := by
  simp [isIdentContinue, isAlphanum_iff, or_assoc]

theorem isEscapeLetter_iff : isEscapeLetter c = true ↔ IsEscapeLetter c := by
  simp [isEscapeLetter, IsEscapeLetter, or_assoc]

theorem isCharacterBody_iff :
    isCharacterBody c = true ↔ c ≠ '\'' ∧ c ≠ '\\' ∧ ¬IsLineBreak c := by
  simp only [isCharacterBody, IsLineBreak, Bool.not_eq_true', Bool.or_eq_false_iff,
    decide_eq_false_iff_not]
  grind

theorem isStringBody_iff : isStringBody c = true ↔ c ≠ '"' ∧ c ≠ '\\' ∧ ¬IsLineBreak c := by
  simp only [isStringBody, IsLineBreak, Bool.not_eq_true', Bool.or_eq_false_iff,
    decide_eq_false_iff_not]
  grind

theorem isComparison_iff : isComparison c = true ↔ IsComparison c := by
  simp [isComparison, IsComparison, or_assoc]

theorem isOperator_iff : isOperator c = true ↔ IsOperatorChar c := by
  rw [IsOperatorChar, ← or_assoc, ← isAlphanum_iff]
  simp only [isOperator, Bool.not_eq_true', Bool.or_eq_false_iff, decide_eq_false_iff_not,
    not_or, Bool.not_eq_true]
  grind

end Tests

end Lexis.Grammar
